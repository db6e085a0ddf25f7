import Mathlib.Data.List.NodupEquivFin
import KeyPrecedence.Proofs.Command.Resolution

/-!
# The command that goes first

Looking a keystroke up walks along the owners of a window, then down a list of scopes, then through
the commands of a scope. This file says without any of the three what comes of it.

* `Window.scopeIn_eq`: the scope of a window is the first known one along its owners;
* `Registry.Eligible`: a command that has the shortcut and whose scope is active;
* `Registry.Wins`: the eligible command whose scope comes first, the earliest of those;
* `Registry.wins_iff`: so its scope is the first one that offers any;
* `ScopeTable.commandFor_meets_specification`: a lookup gives the winner, warns exactly when the
  winner shares its scope, and does nothing else.
-/

namespace KeyPrecedence

variable {σ κ : Type}

/-- The scopes of a window, its owner, the owner's owner and so on. -/
def Window.scopes : Window → List String
  | .free _ scope => [scope]
  | .owned _ scope owner => scope :: owner.scopes

theorem Window.scopeIn_eq (table : ScopeTable) (fallback : String) (window : Window) :
    window.scopeIn table fallback = (window.scopes.find? table.knows).getD fallback := by
  induction window with
  | free id scope =>
    by_cases h : table.knows scope <;> simp [scopeIn, scopes, h]
  | owned id scope owner ih =>
    by_cases h : table.knows scope <;> simp [scopeIn, scopes, h, ih]

namespace Registry

variable {registry : Registry κ} {scopes : List String} {shortcut : String}

/-- The command was registered at this position, has the shortcut, and its scope is active. -/
structure Reaches (registry : Registry κ) (scopes : List String) (shortcut : String)
    (position : Nat) (command : Command κ) : Prop where
  registered : registry.commands[position]? = some command
  bound : shortcut ∈ registry.effective command.id
  active : command.scope ∈ scopes

/-- No other command in reach has a scope that occurs earlier, and none of the same scope was
registered earlier. -/
structure Wins (registry : Registry κ) (scopes : List String) (shortcut : String)
    (position : Nat) (command : Command κ) : Prop
    extends registry.Reaches scopes shortcut position command where
  first : ∀ other rival, registry.Reaches scopes shortcut other rival →
    scopes.idxOf command.scope < scopes.idxOf rival.scope ∨
      scopes.idxOf command.scope = scopes.idxOf rival.scope ∧ position ≤ other

/-- Whether a scope has a command with the shortcut. -/
def offers (registry : Registry κ) (shortcut scope : String) : Bool :=
  !(registry.candidates scope shortcut).isEmpty

theorem idxOf_getElem_le {position : Nat} (h : position < scopes.length) :
    scopes.idxOf scopes[position] ≤ position := by
  by_contra hlt
  have := List.not_of_lt_findIdx (Nat.lt_of_not_le hlt)
  simp at this

theorem mem_candidates {scope : String} {command : Command κ} :
    command ∈ registry.candidates scope shortcut ↔
      command ∈ registry.commands ∧ command.scope = scope ∧
        shortcut ∈ registry.effective command.id := by
  simp [candidates]

theorem offers_iff {scope : String} :
    registry.offers shortcut scope = true ↔
      ∃ command, command ∈ registry.candidates scope shortcut := by
  unfold offers
  rw [Bool.not_eq_true', List.isEmpty_eq_false_iff_exists_mem]

theorem Reaches.offers {position : Nat} {command : Command κ}
    (h : registry.Reaches scopes shortcut position command) :
    registry.offers shortcut command.scope = true :=
  offers_iff.mpr ⟨command, mem_candidates.mpr ⟨List.mem_of_getElem? h.registered, rfl, h.bound⟩⟩

/-- The first scope that offers a command decides. -/
theorem resolveIn_eq (scopes : List String) :
    registry.resolveIn shortcut scopes =
      match scopes.find? (registry.offers shortcut) with
      | none => ⟨none, none⟩
      | some scope =>
        let sharing := registry.candidates scope shortcut
        ⟨sharing.head?,
          if 1 < sharing.length then some ⟨shortcut, sharing.map (·.id), scope⟩ else none⟩ := by
  induction scopes with
  | nil => rfl
  | cons scope scopes ih =>
    unfold resolveIn
    cases hc : registry.candidates scope shortcut with
    | nil => simp [offers, hc, ih]
    | cons command others =>
      have found : (scope :: scopes).find? (registry.offers shortcut) = some scope := by
        simp [offers, hc]
      rw [found]
      cases others <;> simp [hc]

/-- The first candidate of a scope is the one registered first. -/
theorem head?_candidates {scope : String} {command : Command κ} :
    (registry.candidates scope shortcut).head? = some command ↔
      ∃ position, registry.commands[position]? = some command ∧ command.scope = scope ∧
        shortcut ∈ registry.effective command.id ∧
        ∀ (other : Nat) (rival : Command κ), registry.commands[other]? = some rival →
          rival.scope = scope → shortcut ∈ registry.effective rival.id → position ≤ other := by
  unfold candidates
  rw [List.head?_filter, List.find?_eq_some_iff_getElem]
  simp only [Bool.and_eq_true, decide_eq_true_eq, List.contains_iff_mem]
  constructor
  · rintro ⟨⟨hs, hb⟩, position, hp, rfl, least⟩
    refine ⟨position, List.getElem?_eq_getElem hp, hs, hb, ?_⟩
    intro other rival hr hrs hrb
    by_contra hlt
    have none := least other (by omega)
    obtain ⟨ho, rfl⟩ := List.getElem?_eq_some_iff.mp hr
    simp [hrs, hrb] at none
  · rintro ⟨position, hp, hs, hb, least⟩
    obtain ⟨hl, rfl⟩ := List.getElem?_eq_some_iff.mp hp
    refine ⟨⟨hs, hb⟩, position, hl, rfl, ?_⟩
    intro other hlt
    have ho : other < registry.commands.length := by omega
    have late := least other _ (List.getElem?_eq_getElem ho)
    simp only [Bool.not_eq_true', Bool.and_eq_false_iff, decide_eq_false_iff_not]
    by_contra both
    simp only [not_or, not_not, Bool.not_eq_false, List.contains_iff_mem] at both
    have := late both.1 both.2
    omega

/-- A winner's scope is the first one that offers a command, and there the winner was registered
first. -/
theorem wins_iff {position : Nat} {command : Command κ} :
    registry.Wins scopes shortcut position command ↔
      scopes.find? (registry.offers shortcut) = some command.scope ∧
        registry.commands[position]? = some command ∧
        shortcut ∈ registry.effective command.id ∧
        ∀ (other : Nat) (rival : Command κ), registry.commands[other]? = some rival →
          rival.scope = command.scope → shortcut ∈ registry.effective rival.id →
            position ≤ other := by
  constructor
  · intro h
    have place := List.idxOf_lt_length_iff.mpr h.active
    refine ⟨?_, h.registered, h.bound, ?_⟩
    · apply List.find?_eq_some_iff_getElem.mpr
      refine ⟨h.toReaches.offers, scopes.idxOf command.scope, place, List.getElem_idxOf place, ?_⟩
      intro earlier hlt
      rw [Bool.not_eq_true']
      by_contra hoff
      obtain ⟨rival, hm⟩ := offers_iff.mp ((Bool.not_eq_false _).mp hoff)
      obtain ⟨hc, hs, hb⟩ := mem_candidates.mp hm
      obtain ⟨other, ho⟩ := List.mem_iff_getElem?.mp hc
      have early : scopes.idxOf rival.scope ≤ earlier := by
        rw [hs]
        exact idxOf_getElem_le _
      have active : rival.scope ∈ scopes := hs ▸ List.getElem_mem _
      have := h.first other rival ⟨ho, hb, active⟩
      omega
    · intro other rival ho hs hb
      have active : rival.scope ∈ scopes := hs ▸ h.active
      have := h.first other rival ⟨ho, hb, active⟩
      rw [hs] at this
      omega
  · rintro ⟨hf, hp, hb, least⟩
    obtain ⟨-, first, hl, hs, before⟩ := List.find?_eq_some_iff_getElem.mp hf
    refine ⟨⟨hp, hb, List.mem_of_find?_eq_some hf⟩, ?_⟩
    intro other rival hr
    have place := List.idxOf_lt_length_iff.mpr hr.active
    have behind : first ≤ scopes.idxOf rival.scope := by
      by_contra hlt
      have none := before (scopes.idxOf rival.scope) (by omega)
      rw [List.getElem_idxOf place, hr.offers] at none
      cases none
    have ahead : scopes.idxOf command.scope ≤ first := by
      rw [← hs]
      exact idxOf_getElem_le _
    by_cases same : rival.scope = command.scope
    · right
      rw [same]
      exact ⟨rfl, least other rival hr.registered same hr.bound⟩
    · left
      have apart : scopes.idxOf rival.scope ≠ first := by
        intro he
        apply same
        rw [← hs, ← List.getElem_idxOf place]
        simp [he]
      omega

theorem resolveIn_command_iff {command : Command κ} :
    (registry.resolveIn shortcut scopes).command = some command ↔
      ∃ position, registry.Wins scopes shortcut position command := by
  rw [resolveIn_eq]
  cases hf : scopes.find? (registry.offers shortcut) with
  | none => simp [wins_iff, hf]
  | some scope =>
    simp only [wins_iff, hf, Option.some.injEq]
    rw [head?_candidates]
    constructor
    · rintro ⟨position, hp, rfl, hb, least⟩
      exact ⟨position, rfl, hp, hb, least⟩
    · rintro ⟨position, rfl, hp, hb, least⟩
      exact ⟨position, hp, rfl, hb, least⟩

theorem resolveIn_command_eq_none_iff :
    (registry.resolveIn shortcut scopes).command = none ↔
      ∀ position command, ¬ registry.Reaches scopes shortcut position command := by
  constructor
  · intro h position command hr
    rw [resolveIn_command, List.head?_eq_none_iff] at h
    have hm := mem_ranking.mpr ⟨List.mem_of_getElem? hr.registered, hr.active, hr.bound⟩
    simp [h] at hm
  · intro none
    cases hc : (registry.resolveIn shortcut scopes).command with
    | none => rfl
    | some command =>
      obtain ⟨position, hw⟩ := resolveIn_command_iff.mp hc
      exact absurd hw.toReaches (none position command)

theorem one_lt_length_filter {α : Type} {p : α → Bool} {l : List α} :
    1 < (l.filter p).length ↔
      ∃ (i j : Nat) (a b : α), i < j ∧ l[i]? = some a ∧ l[j]? = some b ∧ p a = true ∧ p b = true := by
  have counted : (l.filter p).length = (l.map p).count true := by
    rw [← List.countP_eq_length_filter, List.count, List.countP_map]
    exact List.countP_congr (by simp)
  rw [counted]
  change 2 ≤ _ ↔ _
  rw [← List.duplicate_iff_two_le_count, List.duplicate_iff_exists_distinct_get]
  constructor
  · rintro ⟨i, j, hlt, hi, hj⟩
    have li : i.val < l.length := by simpa using i.isLt
    have lj : j.val < l.length := by simpa using j.isLt
    refine ⟨i, j, l[i.val], l[j.val], hlt, List.getElem?_eq_getElem li,
      List.getElem?_eq_getElem lj, ?_, ?_⟩
    · simpa using hi.symm
    · simpa using hj.symm
  · rintro ⟨i, j, a, b, hlt, hi, hj, ha, hb⟩
    obtain ⟨li, rfl⟩ := List.getElem?_eq_some_iff.mp hi
    obtain ⟨lj, rfl⟩ := List.getElem?_eq_some_iff.mp hj
    refine ⟨⟨i, by simpa using li⟩, ⟨j, by simpa using lj⟩, hlt, ?_, ?_⟩
    · simpa using ha.symm
    · simpa using hb.symm

/-- Two commands of one scope have the shortcut. -/
theorem one_lt_length_candidates {scope : String} :
    1 < (registry.candidates scope shortcut).length ↔
      ∃ (i j : Nat) (a b : Command κ), i < j ∧ registry.commands[i]? = some a ∧
        registry.commands[j]? = some b ∧
        (a.scope = scope ∧ shortcut ∈ registry.effective a.id) ∧
        (b.scope = scope ∧ shortcut ∈ registry.effective b.id) := by
  unfold candidates
  rw [one_lt_length_filter]
  simp only [Bool.and_eq_true, decide_eq_true_eq, List.contains_iff_mem]

/-- An ambiguity is one between the winner and another command of its scope. -/
theorem resolveIn_ambiguity_iff {ambiguity : Ambiguity} :
    (registry.resolveIn shortcut scopes).ambiguity = some ambiguity ↔
      ∃ position winner, registry.Wins scopes shortcut position winner ∧
        (∃ other rival, other ≠ position ∧ registry.Reaches scopes shortcut other rival ∧
          rival.scope = winner.scope) ∧
        ambiguity =
          ⟨shortcut, (registry.candidates winner.scope shortcut).map (·.id), winner.scope⟩ := by
  rw [resolveIn_eq]
  cases hf : scopes.find? (registry.offers shortcut) with
  | none => simp [wins_iff, hf]
  | some scope =>
    simp only [Option.ite_none_right_eq_some, Option.some.injEq]
    constructor
    · rintro ⟨hl, rfl⟩
      obtain ⟨i, j, early, rival, hlt, hi, hj, ⟨his, hib⟩, ⟨hjs, hjb⟩⟩ :=
        one_lt_length_candidates.mp hl
      obtain ⟨winner, hh⟩ : ∃ winner, (registry.candidates scope shortcut).head? = some winner :=
        ⟨_, List.head?_eq_some_head (List.ne_nil_of_length_pos (by omega))⟩
      obtain ⟨position, hp, rfl, hb, least⟩ := head?_candidates.mp hh
      have before := least i _ hi his hib
      have active : rival.scope ∈ scopes := hjs ▸ List.mem_of_find?_eq_some hf
      exact ⟨position, winner, wins_iff.mpr ⟨hf, hp, hb, least⟩,
        ⟨j, rival, by omega, ⟨hj, hjb, active⟩, hjs⟩, rfl⟩
    · rintro ⟨position, winner, hw, ⟨other, rival, apart, hr, hs⟩, rfl⟩
      obtain ⟨found, hp, hb, least⟩ := wins_iff.mp hw
      obtain rfl : scope = winner.scope := Option.some.inj (hf.symm.trans found)
      have before := least other rival hr.registered hs hr.bound
      refine ⟨one_lt_length_candidates.mpr ?_, rfl⟩
      exact ⟨position, other, winner, rival, by omega, hp, hr.registered, ⟨rfl, hb⟩, ⟨hs, hr.bound⟩⟩

end Registry

/-- Looking a keystroke up meets its specification. In the scopes active in the first known scope
along the window's owners, or else in the fallback, a press of a key with a shortcut stands for the
command that wins there, and for none exactly when none is in reach; everything else stands for
none. All the lookup does is to log a warning, which it does exactly when another command shares the
scope of the winner. -/
theorem ScopeTable.commandFor_meets_specification (table : ScopeTable) (fallback : String)
    (registry : Slot σ (Registry κ)) (log : Notice → Act σ Unit) (keystroke : Keystroke)
    (window : Window) (state : σ) :
    let held := registry.get state
    let scopes := table.active ((window.scopes.find? table.knows).getD fallback)
    let shortcut := keystroke.shortcut
    let asks := keystroke.phase = .pressed ∧ shortcut ≠ ""
    ∃ command warning,
      (table.commandFor fallback registry log keystroke window).run state =
        (do
          if let some ambiguity := warning then log (.ambiguous ambiguity)
          return command : Act σ (Option (Command κ))).run state ∧
      (∀ found, command = some found ↔
        asks ∧ ∃ position, held.Wins scopes shortcut position found) ∧
      (command = none ↔
        ¬ (asks ∧ ∃ position other, held.Reaches scopes shortcut position other)) ∧
      (∀ ambiguity, warning = some ambiguity ↔
        asks ∧ ∃ position winner, held.Wins scopes shortcut position winner ∧
          (∃ other rival, other ≠ position ∧ held.Reaches scopes shortcut other rival ∧
            rival.scope = winner.scope) ∧
          ambiguity =
            ⟨shortcut, (held.candidates winner.scope shortcut).map (·.id), winner.scope⟩) := by
  intro held scopes shortcut asks
  let resolution := held.resolve table fallback keystroke window
  refine ⟨resolution.command, resolution.ambiguity, rfl, ?_⟩
  by_cases ha : asks
  · have resolved : resolution = held.resolveIn shortcut scopes := by
      simp only [resolution, Registry.resolve]
      rw [if_pos ha, window.scopeIn_eq table fallback]
    rw [resolved]
    simp only [ha, true_and]
    refine ⟨fun _ => Registry.resolveIn_command_iff, ?_, fun _ => Registry.resolveIn_ambiguity_iff⟩
    rw [Registry.resolveIn_command_eq_none_iff]
    simp only [not_exists]
  · have resolved : resolution = ⟨none, none⟩ := if_neg ha
    simp [resolved, ha]

end KeyPrecedence
