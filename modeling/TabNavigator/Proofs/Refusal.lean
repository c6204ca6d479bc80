import TabNavigator.Proofs.Documents
import TabNavigator.Proofs.Printing

/-!
# What a refused style says of its value

A style is asked for by its name, and a value that is no name is reported by its compact
text. The report is faithful: the text reads back as the very value that was there, whatever
stands in its strings and keys and as deep as the reader goes. So a refusal tells which value it
is about, and two values that differ are never refused alike.

This is the reading of printed values (`Json.read?_compact`) with what stands before the
style in the order of reading out of the way, and it has the limits of that reading. A number
that is no integer of a machine word is held as a double, also if it is written without a
point, and is left out. A value that was itself read from a document nests no deeper than can
be read again, so that nothing else is asked of it.
-/

namespace TabNavigator

open Json (Everywhere IsDouble Shaped maxDepth)

namespace Parameters

/-- Nothing is wrong with the items and the requested tab, but the style is a value that is
neither a text nor null. -/
structure NamesNoStyle (parameters : Parameters) (value : Json) : Prop where
  items : ∃ items, parameters.items = .ok items
  requested : ∃ requested, parameters.requestedItem = .ok requested
  there : parameters.get? "style" = some value
  notNull : value ≠ .null
  notText : ∀ name, value ≠ .string name

variable {parameters : Parameters} {value : Json}

theorem NamesNoStyle.style (h : parameters.NamesNoStyle value) :
    parameters.style = .error (.unknownValue "style" value.compact) := by
  rw [Parameters.style, present?, h.there]
  cases value with
  | null => exact absurd rfl h.notNull
  | string name => exact absurd rfl (h.notText name)
  | _ => rfl

theorem NamesNoStyle.ofParameters (h : parameters.NamesNoStyle value) :
    Configuration.ofParameters (some parameters) =
      .error (.unknownValue "style" value.compact) := by
  obtain ⟨items, hitems⟩ := h.items
  obtain ⟨requested, hrequested⟩ := h.requested
  rw [Configuration.ofParameters, Configuration.ofParametersLogged, Configuration.readLogged,
    hitems, hrequested, h.style]
  rfl

end Parameters

/-- The style is refused with a text that reads back as the value. -/
def Configuration.ReportsStyle (read : Read Configuration) (value : Json) : Prop :=
  ∃ text, read = .error (.unknownValue "style" text) ∧ Json.read? text = some value

theorem Configuration.ReportsStyle.unique {read : Read Configuration} {value value' : Json}
    (h : ReportsStyle read value) (h' : ReportsStyle read value') : value = value' := by
  obtain ⟨text, hrefused, hback⟩ := h
  obtain ⟨text', hrefused', hback'⟩ := h'
  obtain ⟨-, rfl⟩ := ParameterError.unknownValue.inj (Except.error.inj (hrefused ▸ hrefused'))
  exact Option.some.inj (hback ▸ hback')

theorem Parameters.NamesNoStyle.reportsStyle {parameters : Parameters} {value : Json}
    (h : parameters.NamesNoStyle value) (hshaped : Shaped maxDepth value)
    (hwhole : Everywhere (¬ IsDouble ·) value) :
    Configuration.ReportsStyle (Configuration.ofParameters (some parameters)) value :=
  ⟨value.compact, h.ofParameters, Json.read?_compact hshaped hwhole⟩

/-- The members of what a document denotes have the shape of documents in turn. -/
theorem Json.Document.shaped_of_get? {cs : List Char} {parameters : Parameters}
    (h : Document cs (.object parameters)) {key : String} {value : Json}
    (hthere : parameters.get? key = some value) : Shaped maxDepth value :=
  h.shaped.member (key, value) (Members.mem_of_get? hthere)

/-- A style that is no name, shaped as documents have it and without doubles, is reported by a
text that reads back as its value, so that values that differ are not reported alike. If the
parameters come from a document, the value has this shape. -/
theorem Configuration.refused_style_reads_back :
    (∀ (parameters : Parameters) (value : Json), parameters.NamesNoStyle value →
      Shaped maxDepth value → Everywhere (¬ IsDouble ·) value →
        ReportsStyle (ofParameters (some parameters)) value) ∧
    (∀ (parameters parameters' : Parameters) (value value' : Json),
      parameters.NamesNoStyle value → parameters'.NamesNoStyle value' →
      Shaped maxDepth value → Shaped maxDepth value' →
      Everywhere (¬ IsDouble ·) value → Everywhere (¬ IsDouble ·) value' → value ≠ value' →
        ofParameters (some parameters) ≠ ofParameters (some parameters')) ∧
    (∀ (text : String) (parameters : Parameters) (value : Json),
      Json.Document text.toList (.object parameters) → parameters.NamesNoStyle value →
      Everywhere (¬ IsDouble ·) value → ReportsStyle (ofJson text) value) := by
  refine ⟨?reported, ?apart, ?read⟩
  case reported => exact fun _ _ h hshaped hwhole => h.reportsStyle hshaped hwhole
  case apart =>
    intro parameters parameters' value value' h h' hshaped hshaped' hwhole hwhole' hdiffer hsame
    have hreport := h.reportsStyle hshaped hwhole
    rw [hsame] at hreport
    exact hdiffer (hreport.unique (h'.reportsStyle hshaped' hwhole'))
  case read =>
    intro text parameters value hdocument h hwhole
    rw [ofJson_of_document hdocument]
    exact h.reportsStyle (hdocument.shaped_of_get? h.there) hwhole

/-- The ends of the machine words, and a key with a control character and a quote. -/
theorem Configuration.refused_nested_style_reads_back :
    let value : Json :=
      .array [.number (.integer 18446744073709551615),
        .object [("\x1f\"", .number (.integer (-9223372036854775808)))]]
    let text :=
      "\x7b\"style\":[18446744073709551615,\x7b\"\\u001F\\\"\":-9223372036854775808\x7d]\x7d"
    ReportsStyle (ofJson text) value ∧
      ReportsStyle (ofParameters (some [("style", value)])) value ∧
      ofParameters (some [("style", value)]) ≠
        ofParameters (some [("style", .bool true)]) := by
  intro value text
  obtain ⟨hreported, hapart, hread⟩ := refused_style_reads_back
  have hdocument : Json.Document text.toList (.object [("style", value)]) :=
    Json.document_of_ofChars? (by cbv)
  have hnames : Parameters.NamesNoStyle [("style", value)] value :=
    ⟨⟨_, rfl⟩, ⟨_, rfl⟩, rfl, by simp [value], by simp [value]⟩
  have hshaped : Shaped maxDepth value := hdocument.shaped_of_get? hnames.there
  have hwhole : Everywhere (¬ IsDouble ·) value := by
    refine .array id (List.forall_mem_cons.mpr ⟨.number id, List.forall_mem_singleton.mpr ?_⟩)
    exact .object id (List.forall_mem_singleton.mpr (.number id))
  have hnames' : Parameters.NamesNoStyle [("style", .bool true)] (.bool true) :=
    ⟨⟨_, rfl⟩, ⟨_, rfl⟩, rfl, by simp, by simp⟩
  have hshaped' : Shaped maxDepth (.bool true) := ⟨.bool trivial, .bool⟩
  have hdiffer : value ≠ .bool true := by simp [value]
  exact ⟨hread text _ value hdocument hnames hwhole, hreported _ value hnames hshaped hwhole,
    hapart _ _ value _ hnames hnames' hshaped hshaped' hwhole (.bool id) hdiffer⟩

end TabNavigator
