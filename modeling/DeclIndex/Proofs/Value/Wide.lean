import DeclIndex.Value.Basic
import Mathlib.Tactic.Common

/-!
# Characters among code points

A text of characters is told by the text of code points that it is, and so is a value. Both are got
back from what they became.

## Main results

* `Text.wide_injective` — texts are told apart as wide ones.
* `Value.wideItems_eq_map`, `Value.wideFields_eq_map` — lists and objects are widened one by one.
* `Value.narrow?_wide` — **a value is got back** from its wide form.
-/

namespace DeclIndex

/-- A text is got back from its wide form. -/
lemma WideText.narrow?_wide (t : Text) : narrow? (Text.wide t) = some t := by
  induction t with
  | nil => rfl
  | cons c t ih => exact congrArg (Option.map (c :: ·)) ih

/-- Texts are told apart as wide ones. -/
lemma Text.wide_injective : Function.Injective Text.wide := by
  intro s t h
  have heq := congrArg WideText.narrow? h
  rwa [WideText.narrow?_wide, WideText.narrow?_wide, Option.some.injEq] at heq

namespace Value

/-- The items of a list are widened one by one. -/
lemma wideItems_eq_map (items : List Value) : wideItems items = items.map wide := by
  induction items with
  | nil => rfl
  | cons v rest ih => exact congrArg (wide v :: ·) ih

/-- The fields of an object are widened one by one. -/
lemma wideFields_eq_map (fields : List (Text × Value)) :
    wideFields fields = fields.map fun f => (Text.wide f.1, wide f.2) := by
  induction fields with
  | nil => rfl
  | cons f rest ih => exact congrArg ((Text.wide f.1, wide f.2) :: ·) ih

mutual

/-- **A value is got back** from its wide form. -/
theorem narrow?_wide (v : Value) : narrow? v.wide = some v := by
  cases v with
  | text t =>
    rw [wide, narrow?, WideText.narrow?_wide]
    rfl
  | list items =>
    rw [wide, narrow?, narrowItems?_wideItems]
    rfl
  | object fields =>
    rw [wide, narrow?, narrowFields?_wideFields]
    rfl
  | _ => rfl

/-- The items of a list are got back from their wide form. -/
lemma narrowItems?_wideItems (items : List Value) :
    narrowItems? (wideItems items) = some items := by
  cases items with
  | nil => rfl
  | cons v rest =>
    rw [wideItems, narrowItems?, narrow?_wide, narrowItems?_wideItems]
    rfl

/-- The fields of an object are got back from their wide form. -/
lemma narrowFields?_wideFields (fields : List (Text × Value)) :
    narrowFields? (wideFields fields) = some fields := by
  cases fields with
  | nil => rfl
  | cons f rest =>
    obtain ⟨key, v⟩ := f
    rw [wideFields, narrowFields?, WideText.narrow?_wide, narrow?_wide, narrowFields?_wideFields]
    rfl

end

/-- Values are told apart as wide ones. -/
lemma wide_injective : Function.Injective wide := by
  intro v w h
  have heq := congrArg narrow? h
  rwa [narrow?_wide, narrow?_wide, Option.some.injEq] at heq

end Value

end DeclIndex
