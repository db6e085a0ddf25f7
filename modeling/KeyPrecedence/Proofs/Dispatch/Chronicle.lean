import Mathlib.Data.List.Infix
import KeyPrecedence.Proofs.Dispatch.Scene

/-!
# Histories of the armed command

* `Chronicle`: the histories a dispatcher may leave, each with what is armed at its end;
* `Chronicle.executed_last`: an execution stands right behind the arming it uses up;
* `Chronicle.executions_le`, `Chronicle.arming_between`: there are never more executions than
  armings, and a fresh arming lies between two of them;
* `Chronicle.armed_cases`, `Chronicle.executed_cases`: what is armed, and what runs, was armed in
  the history or before it.
-/

namespace KeyPrecedence

/-- A history with what is armed at its end, when `first` is armed at its start. Commands are armed
while nothing is, with what the focus source said; they run on a release that goes to their target,
after they were let go of. What is armed and what runs satisfies `ok`. -/
inductive Chronicle {κ : Type} (ok : Occurrence κ → Prop) (first : Option (Armed (Bound κ))) :
    List (Occurrence κ) → Option (Armed (Bound κ)) → Prop
  | start : Chronicle ok first [] first
  | arm {history} {during : Handling} {armed : Armed (Bound κ)}
      (idle : Chronicle ok first history none) (fine : ok (.armed during armed))
      (context : armed.command.context = during.context) :
      Chronicle ok first (history ++ [.armed during armed]) (some armed)
  | clear {history armed} (before : Chronicle ok first history armed) :
      Chronicle ok first (history ++ [.cleared]) none
  | execute {history} {armed : Armed (Bound κ)} {during : Handling}
      (before : Chronicle ok first history (some armed)) (released : during.event.phase = .released)
      (target : during.destination = armed.target)
      (fine : ok (.executed during armed.command.command.execute armed.command.context)) :
      Chronicle ok first (history ++ [.cleared] ++
        [.executed during armed.command.command.execute armed.command.context]) none

namespace Chronicle

variable {κ : Type} {ok : Occurrence κ → Prop} {history : List (Occurrence κ)}
  {first armed : Option (Armed (Bound κ))}

theorem mono {weaker : Occurrence κ → Prop} (h : Chronicle ok first history armed)
    (hw : ∀ occurrence, ok occurrence → weaker occurrence) :
    Chronicle weaker first history armed := by
  induction h with
  | start => exact .start
  | arm _ fine context ih => exact .arm ih (hw _ fine) context
  | clear _ ih => exact .clear ih
  | execute _ released target fine ih => exact .execute ih released target (hw _ fine)

/-- A history broken off earlier is a history. -/
theorem of_prefix (h : Chronicle ok first history armed) (part : List (Occurrence κ))
    (hp : part <+: history) : ∃ left, Chronicle ok first part left := by
  induction h with
  | start => exact ⟨first, by rw [List.prefix_nil.mp hp]; exact .start⟩
  | arm idle fine context ih =>
    obtain rfl | hp := List.prefix_concat_iff.mp hp
    · exact ⟨_, .arm idle fine context⟩
    · exact ih hp
  | clear before ih =>
    obtain rfl | hp := List.prefix_concat_iff.mp hp
    · exact ⟨_, .clear before⟩
    · exact ih hp
  | execute before released target fine ih =>
    obtain rfl | hp := List.prefix_concat_iff.mp hp
    · exact ⟨_, .execute before released target fine⟩
    obtain rfl | hp := List.prefix_concat_iff.mp hp
    · exact ⟨_, .clear before⟩
    · exact ih hp

/-- What is armed was armed last of all, or before anything happened. -/
theorem armed_last {a : Armed (Bound κ)} (h : Chronicle ok first history (some a)) :
    (history = [] ∧ first = some a) ∨ ∃ earlier arming, history = earlier ++ [.armed arming a] ∧
      a.command.context = arming.context := by
  cases h with
  | start => exact .inl ⟨rfl, rfl⟩
  | arm _ _ context => exact .inr ⟨_, _, rfl, context⟩

/-- An execution takes what was armed right before it, on a release headed for the target. -/
theorem executed_last {before : List (Occurrence κ)} {during : Handling} {callback : κ}
    {context : Context}
    (h : Chronicle ok first (before ++ [.executed during callback context]) armed) :
    during.event.phase = .released ∧ ∃ a,
      a.target = during.destination ∧ callback = a.command.command.execute ∧
      context = a.command.context ∧ ((before = [.cleared] ∧ first = some a) ∨
        ∃ earlier arming, before = earlier ++ [.armed arming a, .cleared] ∧
          context = arming.context) := by
  generalize e : before ++ [.executed during callback context] = history at h
  cases h with
  | start => simp at e
  | arm => cases (List.append_inj' e rfl).2
  | clear => cases (List.append_inj' e rfl).2
  | execute armedBefore released target =>
    obtain ⟨hb, he⟩ := List.append_inj' e rfl
    cases he
    refine ⟨released, _, target.symm, rfl, rfl, ?_⟩
    obtain ⟨rfl, hf⟩ | ⟨earlier, arming, rfl, hc⟩ := armedBefore.armed_last
    · exact .inl ⟨hb, hf⟩
    · exact .inr ⟨earlier, arming, by simp [hb], hc⟩

theorem ok_of_mem (h : Chronicle ok first history armed) {occurrence : Occurrence κ}
    (hm : occurrence ∈ history) (hc : occurrence ≠ .cleared) : ok occurrence := by
  induction h with
  | start => cases hm
  | arm _ fine _ ih =>
    obtain hm | hm := List.mem_append.mp hm
    · exact ih hm
    · exact List.mem_singleton.mp hm ▸ fine
  | clear _ ih => exact ih (by simpa [hc] using hm)
  | execute _ _ _ fine ih =>
    obtain hm | hm := List.mem_append.mp hm
    · exact ih (by simpa [hc] using hm)
    · exact List.mem_singleton.mp hm ▸ fine

/-- Every execution has used up an arming, and what is armed now is one more. -/
theorem executions_add_le (h : Chronicle ok first history armed) :
    history.countP Occurrence.isExecution + armed.isSome.toNat ≤
      history.countP Occurrence.isArming + first.isSome.toNat := by
  induction h with
  | start => simp
  | arm _ _ _ ih =>
    simp [List.countP_append] at ih ⊢
    omega
  | clear _ ih =>
    simp [List.countP_append] at ih ⊢
    omega
  | execute _ _ _ _ ih =>
    simp [List.countP_append] at ih ⊢
    omega

theorem executions_le (h : Chronicle ok none history armed) {part : List (Occurrence κ)}
    (hp : part <+: history) :
    part.countP Occurrence.isExecution ≤ part.countP Occurrence.isArming := by
  obtain ⟨_, h⟩ := h.of_prefix part hp
  exact Nat.le_of_add_right_le h.executions_add_le

theorem arming_between (h : Chronicle ok first history armed)
    {before between after : List (Occurrence κ)} {one other : Occurrence κ} (hf : one.isExecution)
    (hs : other.isExecution) (e : history = before ++ one :: between ++ other :: after) :
    ∃ arming a, .armed arming a ∈ between := by
  obtain ⟨_, hp⟩ := h.of_prefix ((before ++ one :: between) ++ [other]) ⟨after, by simp [e]⟩
  cases other with
  | armed | cleared => cases hs
  | executed during callback context =>
    obtain ⟨-, a, -, -, -, ⟨hb, -⟩ | ⟨earlier, arming, hb, -⟩⟩ := hp.executed_last
    · have hm : one ∈ [Occurrence.cleared] := by rw [← hb]; simp
      cases List.mem_singleton.mp hm
      cases hf
    refine ⟨arming, a, ?_⟩
    -- The two occurrences before the other execution are no executions, so they lie in between.
    have hc := congrArg List.reverse hb
    simp only [List.reverse_append, List.reverse_cons, List.append_assoc, List.reverse_nil,
      List.nil_append, List.cons_append] at hc
    rcases hr : between.reverse with _ | ⟨last, _ | ⟨previous, rest⟩⟩
    · simp only [hr, List.nil_append, List.cons.injEq] at hc
      rw [hc.1] at hf
      cases hf
    · simp only [hr, List.cons_append, List.nil_append, List.cons.injEq] at hc
      rw [hc.2.1] at hf
      cases hf
    · simp only [hr, List.cons_append, List.cons.injEq] at hc
      rw [← List.mem_reverse, hr, hc.2.1]
      simp

/-- What is armed at the end was armed at the start or since. -/
theorem armed_cases {a : Armed (Bound κ)} (h : Chronicle ok first history (some a)) :
    first = some a ∨ ∃ arming, .armed arming a ∈ history := by
  obtain ⟨-, hf⟩ | ⟨earlier, arming, rfl, -⟩ := h.armed_last
  · exact .inl hf
  · exact .inr ⟨arming, by simp⟩

/-- Where nothing may be armed, nothing is. -/
theorem idle (h : Chronicle ok none history armed) (hn : ∀ arming a, ¬ ok (.armed arming a)) :
    armed = none := by
  cases armed with
  | none => rfl
  | some a =>
    obtain hf | ⟨arming, hm⟩ := h.armed_cases
    · cases hf
    · exact absurd (h.ok_of_mem hm nofun) (hn arming a)

/-- What runs was armed at the start or since. -/
theorem executed_cases (h : Chronicle ok first history armed) {during : Handling} {callback : κ}
    {context : Context} (hm : .executed during callback context ∈ history) :
    ∃ a, callback = a.command.command.execute ∧ context = a.command.context ∧
      (first = some a ∨ ∃ arming, .armed arming a ∈ history) := by
  obtain ⟨before, after, rfl⟩ := List.append_of_mem hm
  obtain ⟨_, hp⟩ := h.of_prefix (before ++ [.executed during callback context]) ⟨after, by simp⟩
  obtain ⟨-, a, -, hr, hc, ⟨-, hf⟩ | ⟨earlier, arming, rfl, -⟩⟩ := hp.executed_last
  · exact ⟨a, hr, hc, .inl hf⟩
  · exact ⟨a, hr, hc, .inr ⟨arming, by simp⟩⟩

end Chronicle
end KeyPrecedence
