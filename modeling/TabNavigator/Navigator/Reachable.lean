import TabNavigator.Navigator.Reduce

/-!
# Reachable navigators

A navigator is reachable if it was mounted and then only changed by the operations of
this library: attaching, exchanging, subscribing, reducing events, and finding content.
It may be mounted from any configuration, also from one that no parameters lead to;
what a mounted navigator guarantees does not hang on how it was made.

What is done before the first event can be told apart: a navigator is fitted out as long
as it has only been attached to, exchanged in part, and subscribed to.
-/

namespace TabNavigator.Navigator

variable {α μ κ : Type} [Scalar α]

/-- Mounted, and not changed since. -/
inductive Mounted : Navigator α μ κ → Prop where
  | configuration (c : Configuration) (now : Moment) : Mounted (mount c now)
  | parameters {parameters : Option Parameters} {now : Moment} {n : Navigator α μ κ} :
      ofParameters parameters now = .ok n → Mounted n
  | json {text : String} {now : Moment} {n : Navigator α μ κ} :
      ofJson text now = .ok n → Mounted n
  | standard (now : Moment) : Mounted (standard now)

/-- Mounted and fitted out: what is attached or exchanged before the first event. -/
inductive Fitted : Navigator α μ κ → Prop where
  | mounted {n : Navigator α μ κ} : Mounted n → Fitted n
  | style {n : Navigator α μ κ} (style : Style α) : Fitted n → Fitted (n.withStyle style)
  | palette {n : Navigator α μ κ} (palette : Palette α) :
      Fitted n → Fitted (n.withPalette palette)
  | delegate {n : Navigator α μ κ} (delegate : Delegate α μ κ) :
      Fitted n → Fitted (n.withDelegate delegate)
  | source {n : Navigator α μ κ} (source : DataSource α μ κ) :
      Fitted n → Fitted (n.withDataSource source)
  | subscribe {n : Navigator α μ κ} : Fitted n → Fitted n.subscribe
  | calls {n : Navigator α μ κ} (calls : List Call) :
      Fitted n → Fitted (n.afterCalls calls)

/-- Mounted, and then changed by the operations of a navigator alone. -/
inductive Reachable : Navigator α μ κ → Prop where
  | mounted {n : Navigator α μ κ} : Mounted n → Reachable n
  | style {n : Navigator α μ κ} (style : Style α) :
      Reachable n → Reachable (n.withStyle style)
  | palette {n : Navigator α μ κ} (palette : Palette α) :
      Reachable n → Reachable (n.withPalette palette)
  | delegate {n : Navigator α μ κ} (delegate : Delegate α μ κ) :
      Reachable n → Reachable (n.withDelegate delegate)
  | source {n : Navigator α μ κ} (source : DataSource α μ κ) :
      Reachable n → Reachable (n.withDataSource source)
  | subscribe {n : Navigator α μ κ} : Reachable n → Reachable n.subscribe
  | reduce {n : Navigator α μ κ} (event : Event) :
      Reachable n → Reachable (n.reduce event).after
  | calls {n : Navigator α μ κ} (calls : List Call) :
      Reachable n → Reachable (n.afterCalls calls)

/-- Parameters and documents only choose the configuration. -/
theorem Mounted.exists_configuration {n : Navigator α μ κ} (h : Mounted n) :
    ∃ c now, n = mount c now := by
  cases h with
  | configuration c now => exact ⟨c, now, rfl⟩
  | @parameters p now _ hread =>
      rw [ofParameters] at hread
      cases hc : Configuration.ofParameters p with
      | error e => rw [hc] at hread; cases hread
      | ok c => rw [hc] at hread; cases hread; exact ⟨c, now, rfl⟩
  | @json text now _ hread =>
      rw [ofJson] at hread
      cases hc : Configuration.ofJson text with
      | error e => rw [hc] at hread; cases hread
      | ok c => rw [hc] at hread; cases hread; exact ⟨c, now, rfl⟩
  | standard now => exact ⟨.standard, now, rfl⟩

end TabNavigator.Navigator
