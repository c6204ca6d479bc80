import TabNavigator.Proofs.Routing
import TabNavigator.Search

/-!
# The route of a query says what the query was

A query is written into its route byte by byte. To say that nothing is lost on the way one
has to say what the written text may look like, and `Spells` does: a character of a query
stands for itself, and every other byte is a percent sign and its two digits. The characters
of a query are those that the format of routes has for this place (`IsQueryChar`), and that
they are the ones that are kept is a lemma (`isKept_iff`).

A spelled text can be read back because the percent sign is none of its characters: where one
stands, two digits follow. So the bytes are given back, the query with them, and no two
queries share a route. The route itself is one of the search page, whatever the query holds,
because the mark that begins the query part stands before all of it.
-/

namespace TabNavigator

namespace Text.Percent

/-! ## The characters of a query -/

/-- Letters, digits and four marks, which never need an escape. -/
def IsUnreserved (c : Char) : Prop :=
  c.isAlphanum = true ∨ c ∈ "-._~".toList

/-- The marks that separate the parts of a query. -/
def IsSubDelimiter (c : Char) : Prop :=
  c ∈ "!$&'()*+,;=".toList

/-- The characters that stand for themselves in a query. -/
def IsQueryChar (c : Char) : Prop :=
  IsUnreserved c ∨ IsSubDelimiter c ∨ c ∈ ":@/?".toList

theorem isKept_iff {c : Char} : isKept c = true ↔ IsQueryChar c := by
  have hmarks : keptMarks = "-._~".toList ++ ("!$&'()*+,;=".toList ++ ":@/?".toList) := by
    decide
  rw [isKept, Bool.or_eq_true, List.contains_iff_mem, hmarks, List.mem_append, List.mem_append,
    ← or_assoc]
  rfl

theorem not_isQueryChar_percent : ¬ IsQueryChar '%' := by
  rw [← isKept_iff]
  decide

/-! ## Spelled bytes -/

/-- The text that stands for some bytes in a query: a byte that is the number of a character of
queries is this character, and any other is a percent sign and two digits. -/
inductive Spells : List UInt8 → List Char → Prop where
  | nil : Spells [] []
  | plain {c : Char} {bytes : List UInt8} {text : List Char} :
      IsQueryChar c → Spells bytes text → Spells (UInt8.ofNat c.toNat :: bytes) (c :: text)
  | escaped {b : UInt8} {high low : Char} {h l : Nat} {bytes : List UInt8} {text : List Char} :
      (∀ c, IsQueryChar c → c.toNat ≠ b.toNat) →
      hexValue? high = some h → hexValue? low = some l → 16 * h + l = b.toNat →
      Spells bytes text → Spells (b :: bytes) ('%' :: high :: low :: text)

theorem hexValue?_hexDigit : ∀ n < 16, hexValue? (hexDigit n) = some n := by
  decide

theorem toNat_char_of_byte (b : UInt8) : (Char.ofNat b.toNat).toNat = b.toNat := by
  have hvalid : b.toNat.isValidChar := .inl (by have := b.toNat_lt; omega)
  rw [Char.ofNat, dif_pos hvalid]
  rfl

theorem spells_encode (bytes : List UInt8) : Spells bytes (bytes.flatMap encodeByte) := by
  induction bytes with
  | nil => exact .nil
  | cons b bytes ih =>
      rw [List.flatMap_cons, encodeByte]
      split
      · next hkept =>
          have hplain := Spells.plain (isKept_iff.mp hkept) ih
          rwa [toNat_char_of_byte, UInt8.ofNat_toNat] at hplain
      · next hunkept =>
          have hsmall : b.toNat < 256 := b.toNat_lt
          refine .escaped ?_ (hexValue?_hexDigit _ (by omega)) (hexValue?_hexDigit _ (by omega))
            (by omega) ih
          intro c hquery hsame
          rw [← hsame, Char.ofNat_toNat] at hunkept
          exact hunkept (isKept_iff.mpr hquery)

theorem Spells.decode {bytes : List UInt8} {text : List Char} (h : Spells bytes text) :
    decode text = some bytes := by
  induction h with
  | nil => rfl
  | @plain c bytes text hquery _ ih =>
      have hother : c ≠ '%' := fun hsame => not_isQueryChar_percent (hsame ▸ hquery)
      unfold Percent.decode
      split
      · next hnone => cases hnone
      · next hsome => cases hsome; exact absurd rfl hother
      · next hsome =>
          cases hsome
          rw [if_pos (isKept_iff.mpr hquery), ih]
          rfl
  | @escaped b high low h l bytes text _ hhigh hlow hvalue _ ih =>
      rw [Percent.decode, hhigh, hlow, ih]
      simp only [hvalue, bind, Option.bind_some, pure, UInt8.ofNat_toNat]

/-- The bytes of a text are those that a string is stored in. -/
theorem bytes_toList (s : String) : bytes s.toList = s.toByteArray.data.toList := by
  rw [← String.utf8Encode_toList, List.utf8Encode, List.toList_data_toByteArray, bytes]

theorem spells_encode_string (s : String) :
    Spells s.toByteArray.data.toList (encode s).toList := by
  rw [encode, String.toList_ofList, bytes_toList]
  exact spells_encode _

theorem encode_injective {s t : String} (hsame : encode s = encode t) : s = t := by
  have hs := (spells_encode_string s).decode
  have ht := (spells_encode_string t).decode
  rw [hsame, ht, Option.some.injEq, Array.toList_inj] at hs
  exact String.toByteArray_inj.mp (ByteArray.ext hs.symm)

end Text.Percent

open Text

namespace Search

theorem routeOf_injective {query other : String} (hsame : routeOf query = routeOf other) :
    query = other := by
  have htexts : "app://search?query=".toList ++ (Percent.encode query).toList =
      "app://search?query=".toList ++ (Percent.encode other).toList := by
    rw [← String.toList_append, ← String.toList_append]
    exact congrArg String.toList hsame
  have hencoded := List.append_cancel_left htexts
  exact Percent.encode_injective (String.toList_inj.mp hencoded)

theorem ofRoute_routeOf (query : String) : Page.ofRoute (routeOf query) = .search := by
  have hmem : ("search", Page.search) ∈ Page.table := by decide
  have hstart : "app://search?query=" = Page.scheme ++ "search" ++ "?query=" := by decide
  have hparts : routeOf query =
      Page.scheme ++ "search" ++ ("?query=" ++ Percent.encode query) :=
    (congrArg (· ++ Percent.encode query) hstart).trans String.append_assoc
  refine (Page.ofRoute_eq_iff hmem).mpr ⟨_, ?_, hparts⟩
  intro c hfirst
  rw [String.toList_append] at hfirst
  cases hfirst
  exact .inl rfl

/-- The item of a submitted query has a route that ends in a text from which the bytes of the
query are read back. Each character of this text is one that a query may hold or belongs to an
escape, and only bytes that are no such characters are escaped. So no other query has this
route. The route leads to the search page, and the analytics have the query as it is. -/
theorem route_of_query (query : String) :
    (∃ text : String,
      (itemFor query).route = "app://search?query=" ++ text ∧
      Percent.decode text.toList = some query.toByteArray.data.toList ∧
      Percent.Spells query.toByteArray.data.toList text.toList) ∧
    (∀ other : String, other ≠ query → (itemFor other).route ≠ (itemFor query).route) ∧
    Page.ofRoute (itemFor query).route = .search ∧
    (itemFor query).analytics = "search_query:" ++ query := by
  have hspelled := Percent.spells_encode_string query
  exact ⟨⟨_, rfl, hspelled.decode, hspelled⟩,
    fun other hdiffers hsame => hdiffers (routeOf_injective hsame), ofRoute_routeOf query, rfl⟩

/-- A query that looks like a route with an escape in it is another than the query that this
escape would stand for, and both are found in their routes as they are. -/
theorem route_of_query_like_route :
    let query := "app://home#%20é"
    (itemFor query).route = "app://search?query=app://home%23%2520%C3%A9" ∧
    Percent.decode "app://home%23%2520%C3%A9".toList = some query.toByteArray.data.toList ∧
    "app://home# é" ≠ query ∧ (itemFor "app://home# é").route ≠ (itemFor query).route ∧
    Page.ofRoute (itemFor query).route = .search := by
  intro query
  obtain ⟨⟨text, hroute, hdecoded, -⟩, hothers, hpage, -⟩ := route_of_query query
  have hwritten : (itemFor query).route = "app://search?query=app://home%23%2520%C3%A9" := by
    decide +kernel
  obtain rfl : text = "app://home%23%2520%C3%A9" := by
    have htexts := congrArg String.toList (hroute.symm.trans hwritten)
    rw [String.toList_append] at htexts
    exact String.toList_inj.mp (List.append_cancel_left htexts)
  have hdiffers : "app://home# é" ≠ query := by decide
  exact ⟨hwritten, hdecoded, hdiffers, hothers _ hdiffers, hpage⟩

end Search

end TabNavigator
