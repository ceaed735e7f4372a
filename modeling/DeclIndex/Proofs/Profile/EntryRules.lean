import DeclIndex.Profile.Entry
import DeclIndex.Proofs.Fallible
import Mathlib.Data.List.Forall2

/-!
# The rules of an entry

An entry has a rule for each of its patterns. While a rule is read four kinds of things can go
wrong: the entry has a fault, a text is no pattern, no group is called `name`, or a text is nested
too deeply. The first kind is passed on; the second and the third become the fault of the field that
the pattern stands in. What nobody is prepared for, too many repetitions and a text that is nested
too deeply, becomes a fault without a message.

The third kind is not ruled out by the search for a group: a pattern whose only group is hidden from
the scan has a group, but none that could be named.

## Main definitions

* `Entry.pattern?`, `Entry.Misplaced` — the pattern of an entry for a kind, and what else can stand
  in its place.
* `Entry.Raised`, `Entry.attempt`, `Entry.caught` — what reading a rule can end with, and the fault
  that it becomes.
* `Entry.IsRuleOf` — a rule is that of a pattern.

## Main results

* `Entry.ruleOf_eq_mapError_attempt` — what is raised while a rule is read becomes a fault of the
  entry.
* `Entry.message?_caught_eq_none_iff` — which faults have no message.
* `Entry.rules_eq_ok_iff`, `Entry.exists_of_rules_eq_error` — the rules of an entry, and why there
  are none.
-/

namespace DeclIndex.Entry

variable {entry : Value} {language : Text} {kind : Kind}

/-! ## The patterns of an entry -/

/-- The pattern of an entry for a kind: the text in its field, if it is not empty. -/
def pattern? (entry : Value) (kind : Kind) : Option Text :=
  match entry.field? kind.word with
  | some (.text (c :: t)) => some (c :: t)
  | _ => none

/-- The field for a kind holds a value that counts as present and is no text. -/
def Misplaced (entry : Value) (kind : Kind) : Prop :=
  ∃ v, entry.field? kind.word = some v ∧ v.isBlank = false ∧ v.text? = none

/-- A field that holds a text is there. -/
lemma eq_some_of_getD_null {o : Option Value} {t : Text} (h : o.getD .null = .text t) :
    o = some (.text t) := by
  cases o with
  | none => cases h
  | some v => exact congrArg some h

lemma pattern?_eq_some_iff {written : Text} :
    pattern? entry kind = some written ↔
      entry.field? kind.word = some (.text written) ∧ written ≠ [] := by
  unfold pattern?
  split
  · rename_i c t hfield
    rw [hfield]
    constructor
    · rintro h
      cases h
      exact ⟨rfl, List.cons_ne_nil c t⟩
    · rintro ⟨h, -⟩
      cases h
      rfl
  · rename_i hother
    refine ⟨nofun, fun ⟨hfield, hne⟩ => ?_⟩
    obtain ⟨c, t, rfl⟩ := List.exists_cons_of_ne_nil hne
    exact absurd hfield (hother c t)

/-- A field without a pattern counts as absent, or it holds something else. -/
lemma isBlank_eq_false_iff_misplaced (h : pattern? entry kind = none) :
    ((entry.field? kind.word).getD .null).isBlank = false ↔ Misplaced entry kind := by
  unfold Misplaced
  cases hfield : entry.field? kind.word with
  | none => simp [Value.isBlank]
  | some v =>
    have htext : v.isBlank = false → v.text? = none := by
      intro hblank
      rw [Option.eq_none_iff_forall_ne_some]
      rintro t ht
      cases v <;> cases ht
      have hne : t ≠ [] := by simpa [Value.isBlank] using hblank
      rw [pattern?_eq_some_iff.mpr ⟨hfield, hne⟩] at h
      cases h
    simpa using htext

/-! ## One rule -/

variable [Host]

/-- What reading a rule can end with in place of the rule. -/
inductive Raised
  /-- The entry has a fault. -/
  | fault (f : Fault)
  /-- A text is no pattern. -/
  | noPattern (f : Pattern.Fault)
  /-- There is no group that is or could be called `name`. -/
  | noName
  /-- A text is nested too deeply to be read as a pattern. -/
  | tooDeep
  deriving DecidableEq, Repr

/-- What is raised if no group could be named. A bound that is too great or too long is no fault of
the notation, and is passed on as it is. -/
def Raised.ofNameGroup : Pattern.NameGroupFault → Raised
  | .invalid _ .boundTooLarge => .noPattern .boundTooLarge
  | .invalid _ .boundTooLong => .noPattern .boundTooLong
  | .invalid written _ => .fault (.invalid written)
  | .noGroup written => .fault (.noGroup written)
  | .notFound => .noName

/-- What is raised if a rule in writing could not be read. -/
def Raised.ofRule : Rule.Fault → Raised
  | .pattern f => .noPattern f
  | .noName _ => .noName

/-- The rule of a pattern: a group is named, and the pattern that results is read again. -/
def attempt (kind : Kind) (written : Text) : Except Raised Rule := do
  if Host.exhausts written then throw .tooDeep
  let named ← (Pattern.nameGroup written).mapError .ofNameGroup
  if Host.exhausts named then throw .tooDeep
  ({ kind := kind, pattern := named } : Rule.Written).read.mapError .ofRule

/-- The fault that comes of what is raised for a field of an entry. -/
def caught (language key : Text) : Raised → Fault
  | .fault f => f
  | .noPattern .boundTooLarge => .boundTooLarge
  | .noPattern _ => .badPattern language key
  | .noName => .badPattern language key
  | .tooDeep => .patternTooDeep

/-- **Everything that is raised while a rule is read** becomes a fault of the entry. -/
lemma ruleOf_eq_mapError_attempt (language : Text) (kind : Kind) (written : Text) :
    ruleOf language kind written =
      (attempt kind written).mapError (caught language kind.word) := by
  unfold ruleOf attempt
  cases Host.exhausts written with
  | true => rfl
  | false =>
    cases Pattern.nameGroup written with
    | error f =>
      cases f with
      | invalid written fault => cases fault <;> rfl
      | _ => rfl
    | ok named =>
      simp only [Except.mapError, bind, Except.bind]
      cases Host.exhausts named with
      | true => rfl
      | false =>
        cases ({ kind := kind, pattern := named } : Rule.Written).read with
        | error f =>
          cases f with
          | pattern fault => cases fault <;> rfl
          | noName written => rfl
        | ok rule => rfl

/-- What is raised has no message if a bound is too great or a text is nested too deeply. -/
def Raised.Escapes (raised : Raised) : Prop :=
  raised = .noPattern .boundTooLarge ∨ raised = .tooDeep

/-- A fault that the entry has while a group is named has a message. -/
lemma exists_message?_of_attempt {written : Text} {fault : Fault}
    (h : attempt kind written = .error (.fault fault)) : ∃ t, fault.message? = some t := by
  simp only [attempt, check_eq_error_iff, bind_eq_error_iff, mapError_eq_error_iff] at h
  obtain ⟨-, hdeep⟩ | ⟨-, ⟨f, -, hf⟩ | ⟨named, -, ⟨-, hdeep⟩ | ⟨-, f, -, hf⟩⟩⟩ := h
  · cases hdeep
  · cases f with
    | invalid written f =>
      cases f <;> cases hf <;> exact ⟨_, rfl⟩
    | noGroup written =>
      cases hf
      exact ⟨_, rfl⟩
    | notFound => cases hf
  · cases hdeep
  · cases f <;> cases hf

/-- **The faults without a message** are those that nobody is prepared for. -/
lemma message?_caught_eq_none_iff {written key : Text} {raised : Raised}
    (h : attempt kind written = .error raised) :
    (caught language key raised).message? = none ↔ raised.Escapes := by
  unfold Raised.Escapes
  cases raised with
  | fault f =>
    obtain ⟨t, ht⟩ := exists_message?_of_attempt h
    simp [caught, ht]
  | noPattern f => cases f <;> simp [caught, Fault.message?]
  | noName => simp [caught, Fault.message?]
  | tooDeep => simp [caught, Fault.message?]

/-! ## The rules of an entry -/

/-- A rule is that of the pattern of an entry for a kind: it has a group called `name`, and nothing
else decides where it applies. -/
structure IsRuleOf (entry : Value) (kind : Kind) (r : Rule) : Prop where
  kind_eq : r.kind = kind
  attempt_eq : ∃ written, pattern? entry kind = some written ∧ attempt kind written = .ok r
  named : (r.pattern.group? "name").isSome
  gate : r.gate = none
  confirm : r.confirm = none

/-- A rule that is only a pattern has a group called `name`, no gate and no confirmation. -/
lemma read_pattern {named : Text} {r : Rule}
    (h : ({ kind := kind, pattern := named } : Rule.Written).read = .ok r) :
    r.kind = kind ∧ (r.pattern.group? "name").isSome ∧ r.gate = none ∧ r.confirm = none := by
  unfold Rule.Written.read at h
  dsimp only at h
  split at h
  · cases h
  · split_ifs at h with hname
    cases h
    exact ⟨rfl, by simpa [Option.isSome_iff_ne_none] using hname, rfl, rfl⟩

/-- What is read from the pattern of an entry is a rule of the entry. -/
lemma isRuleOf_iff {r : Rule} :
    IsRuleOf entry kind r ↔
      ∃ written, pattern? entry kind = some written ∧ attempt kind written = .ok r := by
  refine ⟨IsRuleOf.attempt_eq, fun ⟨written, hwritten, hattempt⟩ => ?_⟩
  have hsteps := hattempt
  simp only [attempt, check_eq_ok_iff, bind_eq_ok_iff] at hsteps
  obtain ⟨-, named, -, -, hread⟩ := hsteps
  obtain ⟨hkind, hname, hgate, hconfirm⟩ := read_pattern (mapError_eq_ok_iff.mp hread)
  exact ⟨hkind, ⟨written, hwritten, hattempt⟩, hname, hgate, hconfirm⟩

/-- The first rule is that of a pattern, if there is one. -/
lemma rules_cons_of_some {kinds : List Kind} {written : Text}
    (h : pattern? entry kind = some written) :
    rules entry language (kind :: kinds) =
      ruleOf language kind written >>= fun r => (rules entry language kinds).map (r :: ·) := by
  obtain ⟨hfield, hne⟩ := pattern?_eq_some_iff.mp h
  obtain ⟨c, t, rfl⟩ := List.exists_cons_of_ne_nil hne
  rw [rules, hfield]
  dsimp only [Option.getD_some]
  cases ruleOf language kind (c :: t) with
  | error f => rfl
  | ok r => rfl

/-- There is no rule for a field without a pattern. -/
lemma rules_cons_of_none {kinds : List Kind} (h : pattern? entry kind = none) :
    rules entry language (kind :: kinds) =
      if ((entry.field? kind.word).getD .null).isBlank then rules entry language kinds
      else .error (.notAPattern language kind.word) := by
  rw [rules]
  split
  · rename_i c t htext
    have hfield := eq_some_of_getD_null htext
    rw [pattern?_eq_some_iff.mpr ⟨hfield, List.cons_ne_nil c t⟩] at h
    cases h
  · rfl

/-- **The rules of an entry** are those of its patterns, in the order of their kinds, as long as no
field holds anything else and all patterns give rules. -/
theorem rules_eq_ok_iff {kinds : List Kind} {rs : List Rule} :
    rules entry language kinds = .ok rs ↔
      (∀ kind ∈ kinds, ¬Misplaced entry kind) ∧
      List.Forall₂ (IsRuleOf entry) (kinds.filter fun kind => (pattern? entry kind).isSome) rs := by
  induction kinds generalizing rs with
  | nil => simp [rules, eq_comm]
  | cons kind kinds ih =>
    cases hpattern : pattern? entry kind with
    | none =>
      -- Without a pattern the rest decides, unless something else stands in the field.
      rw [rules_cons_of_none hpattern]
      have hmisplaced := isBlank_eq_false_iff_misplaced hpattern
      cases hblank : ((entry.field? kind.word).getD .null).isBlank with
      | false => simp [hmisplaced.mp hblank]
      | true =>
        have hnot : ¬Misplaced entry kind := fun h => by simp [hmisplaced.mpr h] at hblank
        simp [ih, hpattern, hnot]
    | some written =>
      have hnot : ¬Misplaced entry kind := by
        rintro ⟨v, hv, -, htext⟩
        rw [(pattern?_eq_some_iff.mp hpattern).1] at hv
        cases hv
        cases htext
      rw [rules_cons_of_some hpattern, bind_eq_ok_iff, List.forall_mem_cons,
        List.filter_cons_of_pos (by rw [hpattern]; rfl), List.forall₂_cons_left_iff]
      simp only [ruleOf_eq_mapError_attempt, mapError_eq_ok_iff, map_eq_ok_iff, ih,
        isRuleOf_iff, hpattern, Option.some.injEq, exists_eq_left']
      constructor
      · rintro ⟨r, hr, rest, ⟨hnone, hrest⟩, rfl⟩
        exact ⟨⟨hnot, hnone⟩, r, rest, hr, hrest, rfl⟩
      · rintro ⟨⟨-, hnone⟩, r, rest, hr, hrest, rfl⟩
        exact ⟨r, hr, rest, ⟨hnone, hrest⟩, rfl⟩

/-- **Why an entry has no rules**: a field holds something else than a pattern, or a pattern gives
no rule. -/
theorem exists_of_rules_eq_error {kinds : List Kind} {fault : Fault}
    (h : rules entry language kinds = .error fault) :
    ∃ kind ∈ kinds, (Misplaced entry kind ∧ fault = .notAPattern language kind.word) ∨
      ∃ written raised, pattern? entry kind = some written ∧
        attempt kind written = .error raised ∧ fault = caught language kind.word raised := by
  induction kinds with
  | nil => cases h
  | cons kind kinds ih =>
    cases hpattern : pattern? entry kind with
    | none =>
      rw [rules_cons_of_none hpattern] at h
      split_ifs at h with hblank
      · obtain ⟨other, hother, hcases⟩ := ih h
        exact ⟨other, List.mem_cons_of_mem kind hother, hcases⟩
      · cases h
        rw [Bool.not_eq_true] at hblank
        exact ⟨kind, List.mem_cons_self,
          .inl ⟨(isBlank_eq_false_iff_misplaced hpattern).mp hblank, rfl⟩⟩
    | some written =>
      rw [rules_cons_of_some hpattern, bind_eq_error_iff, ruleOf_eq_mapError_attempt,
        mapError_eq_error_iff] at h
      obtain ⟨raised, hraised, rfl⟩ | ⟨r, -, hlater⟩ := h
      · exact ⟨kind, List.mem_cons_self, .inr ⟨written, raised, hpattern, hraised, rfl⟩⟩
      · obtain ⟨other, hother, hcases⟩ := ih (map_eq_error_iff.mp hlater)
        exact ⟨other, List.mem_cons_of_mem kind hother, hcases⟩

end DeclIndex.Entry
