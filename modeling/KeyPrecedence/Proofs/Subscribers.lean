import Mathlib.Data.List.Nodup
import KeyPrecedence.Subscribers
import KeyPrecedence.Proofs.Alike
import KeyPrecedence.Proofs.Ends

/-!
# Calling the subscribers

* `Subscribers.keeps_callAll`, `Subscribers.leads_callAll`: what every call keeps, the whole round
  keeps;
* `Subscribers.alike_callAll`: rounds on two hosts end alike when the calls do;
* `Subscribers.answers_callAll`: a round ends, where the subscribers stay and every call ends;
* `Subscribers.leads_callAll_through`: whoever is subscribed all the time is called in every round;
* `Subscribers.Ordered`: tickets go up along the list, and nobody is on it twice;
* `Ordered.add`, `Ordered.remove`: it stays so; whoever joins comes last;
* `Ordered.le_of_after`: nobody is passed over.
-/

namespace KeyPrecedence.Subscribers

open Act

section
variable {σ ν : Type} {inv : σ → Prop} {slot : Slot σ (Subscribers ν)}
  {call : ν → Act σ Unit}

theorem keeps_callFrom (h : ∀ member, Keeps inv (call member)) :
    ∀ allowance last, Keeps inv (callFrom slot call allowance last)
  | 0, _ => keeps_exhausted
  | allowance + 1, last => by
    refine keeps_bind Slot.keeps_read fun subscribers => ?_
    cases subscribers.after last with
    | none => exact keeps_pure ()
    | some next => exact keeps_bind (h next.2) fun _ => keeps_callFrom h allowance next.1

theorem keeps_callAll (h : ∀ member, Keeps inv (call member)) (allowance : Nat) :
    Keeps inv (callAll slot allowance call) :=
  keeps_callFrom h allowance 0

theorem leads_callFrom (h : ∀ member, Leads inv inv (call member)) :
    ∀ allowance last, Leads inv inv (callFrom slot call allowance last)
  | 0, _ => fun _ _ => trivial
  | allowance + 1, last => by
    intro state hs
    refine Slot.ends_read_bind.mpr ?_
    cases (slot.get state).after last with
    | none => exact ⟨rfl, hs⟩
    | some next => exact (h next.2).bind (leads_callFrom h allowance next.1) state hs

theorem leads_callAll (h : ∀ member, Leads inv inv (call member)) (allowance : Nat) :
    Leads inv inv (callAll slot allowance call) :=
  leads_callFrom h allowance 0

end

section
variable {σ σ' ν : Type} {states : σ → σ' → Prop} {slot : Slot σ (Subscribers ν)}
  {other : Slot σ' (Subscribers ν)} {call : ν → Act σ Unit} {call' : ν → Act σ' Unit}

theorem alike_callFrom (listed : slot.Alike states other)
    (h : ∀ member, Act.Alike states Eq (call member) (call' member)) :
    ∀ allowance last, Act.Alike states Eq (callFrom slot call allowance last)
      (callFrom other call' allowance last)
  | 0, _ => alike_exhausted
  | allowance + 1, last => by
    apply alike_bind_eq listed.read
    intro subscribers
    cases subscribers.after last with
    | none => exact alike_pure rfl
    | some next => exact alike_bind_eq (h next.2) fun _ => alike_callFrom listed h allowance next.1

theorem alike_callAll (listed : slot.Alike states other)
    (h : ∀ member, Act.Alike states Eq (call member) (call' member)) (allowance : Nat) :
    Act.Alike states Eq (callAll slot allowance call) (callAll other allowance call') :=
  alike_callFrom listed h allowance 0

end

variable {ν : Type} {subscribers : Subscribers ν} {member : ν} {ticket last : Nat}

structure Ordered (subscribers : Subscribers ν) : Prop where
  ascending : subscribers.members.Pairwise (·.1 < ·.1)
  within : ∀ entry ∈ subscribers.members, 0 < entry.1 ∧ entry.1 ≤ subscribers.issued
  distinct : (subscribers.members.map (·.2)).Nodup

theorem ordered_empty : ({} : Subscribers ν).Ordered := ⟨.nil, nofun, .nil⟩

theorem Ordered.ticket_unique (h : subscribers.Ordered) {other : Nat}
    (hm : (ticket, member) ∈ subscribers.members) (ho : (other, member) ∈ subscribers.members) :
    ticket = other :=
  congrArg Prod.fst (List.inj_on_of_nodup_map h.distinct hm ho rfl)

theorem Ordered.member_unique (h : subscribers.Ordered) {other : ν}
    (hm : (ticket, member) ∈ subscribers.members) (ho : (ticket, other) ∈ subscribers.members) :
    member = other := by
  have tickets : (subscribers.members.map (·.1)).Nodup :=
    (List.pairwise_map.mpr h.ascending).imp fun hlt => Nat.ne_of_lt hlt
  exact congrArg Prod.snd (List.inj_on_of_nodup_map tickets hm ho rfl)

theorem mem_of_after {entry : Nat × ν} (h : subscribers.after last = some entry) :
    entry ∈ subscribers.members :=
  List.mem_of_find?_eq_some h

theorem lt_of_after {entry : Nat × ν} (h : subscribers.after last = some entry) : last < entry.1 := by
  simpa using List.find?_some h

/-- Whoever comes next has the lowest ticket after the last one. -/
theorem Ordered.le_of_after (h : subscribers.Ordered) {entry other : Nat × ν}
    (next : subscribers.after last = some entry) (ho : other ∈ subscribers.members)
    (later : last < other.1) : entry.1 ≤ other.1 := by
  obtain ⟨-, before, behind, split, skipped⟩ := List.find?_eq_some_iff_append.mp next
  have ascending := h.ascending
  rw [split] at ho ascending
  obtain hb | rfl | hb := by simpa using ho
  · exact absurd later (by simpa using skipped other hb)
  · exact Nat.le_refl _
  · exact Nat.le_of_lt ((List.pairwise_cons.mp (List.pairwise_append.mp ascending).2.1).1 other hb)

theorem le_of_after_none {entry : Nat × ν} (h : subscribers.after last = none)
    (hm : entry ∈ subscribers.members) : entry.1 ≤ last := by
  simpa using List.find?_eq_none.mp h entry hm

section
variable {σ : Type} {inv : σ → Prop} {slot : Slot σ (Subscribers ν)} {call : ν → Act σ Unit}

/-- With every turn there are fewer to come. -/
theorem length_filter_after {entry : Nat × ν} (next : subscribers.after last = some entry) :
    (subscribers.members.filter (entry.1 < ·.1)).length <
      (subscribers.members.filter (last < ·.1)).length := by
  have later := lt_of_after next
  have fewer : subscribers.members.filter (entry.1 < ·.1) =
      (subscribers.members.filter (last < ·.1)).filter (entry.1 < ·.1) := by
    rw [List.filter_filter]
    refine List.filter_congr fun other _ => ?_
    have above : entry.1 < other.1 → last < other.1 := Nat.lt_trans later
    simpa using above
  rw [fewer, List.length_filter_lt_length_iff_exists]
  exact ⟨entry, List.mem_filter.mpr ⟨mem_of_after next, by simpa using later⟩, by simp⟩

theorem answers_callFrom (steady : ∀ state, inv state → slot.get state = subscribers)
    (calls : ∀ member, (call member).Answers inv fun _ => True) :
    ∀ allowance last, (subscribers.members.filter (last < ·.1)).length < allowance →
      (callFrom slot call allowance last).Answers inv fun _ => True
  | 0, _, enough => absurd enough (Nat.not_lt_zero _)
  | allowance + 1, last, enough => by
    intro state hs
    unfold callFrom
    rw [run_bind, Slot.run_read, steady state hs]
    dsimp only
    cases next : subscribers.after last with
    | none => exact ⟨(), state, rfl, hs, trivial⟩
    | some entry =>
      have fewer := length_filter_after next
      have rest := answers_callFrom steady calls allowance entry.1 (by omega)
      exact (calls entry.2).bind (fun _ _ => rest) state hs

/-- Where nobody joins or leaves and no call fails, a round comes to its end. -/
theorem answers_callAll (steady : ∀ state, inv state → slot.get state = subscribers)
    (calls : ∀ member, (call member).Answers inv fun _ => True) {allowance : Nat}
    (enough : subscribers.members.length < allowance) :
    (callAll slot allowance call).Answers inv fun _ => True :=
  answers_callFrom steady calls allowance 0 (Nat.lt_of_le_of_lt (List.length_filter_le _ _) enough)

end

section
variable {σ : Type} {inv good : σ → Prop} {slot : Slot σ (Subscribers ν)} {call : ν → Act σ Unit}

/-- The tickets called go up to that of the member, who is called then. -/
theorem leads_callFrom_through
    (stays : ∀ state, inv state →
      (slot.get state).Ordered ∧ (ticket, member) ∈ (slot.get state).members)
    (others : ∀ other, Leads inv inv (call other)) (turn : Leads inv good (call member))
    (past : ∀ other, Leads good good (call other)) :
    ∀ allowance last, last < ticket → Leads inv good (callFrom slot call allowance last)
  | 0, _, _ => fun _ _ => trivial
  | allowance + 1, last, ahead => by
    intro state hs
    obtain ⟨ordered, subscribed⟩ := stays state hs
    refine Slot.ends_read_bind.mpr ?_
    cases next : (slot.get state).after last with
    | none => exact absurd (le_of_after_none next subscribed) (Nat.not_le.mpr ahead)
    | some entry =>
      have reached : entry.1 ≤ ticket := ordered.le_of_after next subscribed ahead
      by_cases own : entry.1 = ticket
      · have named : (ticket, entry.2) ∈ (slot.get state).members := own ▸ mem_of_after next
        have same : entry.2 = member := ordered.member_unique named subscribed
        have turn : Leads inv good (call entry.2) := same ▸ turn
        exact turn.bind (leads_callFrom past allowance entry.1) state hs
      · have later : entry.1 < ticket := by omega
        have rest := leads_callFrom_through stays others turn past allowance entry.1 later
        exact (others entry.2).bind rest state hs

/-- Somebody who is subscribed all the time is called in every round: what this call brings about,
and every call keeps, is so after the round. -/
theorem leads_callAll_through
    (stays : ∀ state, inv state →
      (slot.get state).Ordered ∧ (ticket, member) ∈ (slot.get state).members)
    (others : ∀ other, Leads inv inv (call other)) (turn : Leads inv good (call member))
    (past : ∀ other, Leads good good (call other)) (allowance : Nat) :
    Leads inv good (callAll slot allowance call) := by
  intro state hs
  obtain ⟨ordered, subscribed⟩ := stays state hs
  have ahead : 0 < ticket := (ordered.within _ subscribed).1
  exact leads_callFrom_through stays others turn past allowance 0 ahead state hs

end

variable [DecidableEq ν]

theorem contains_iff :
    subscribers.contains member ↔ ∃ ticket, (ticket, member) ∈ subscribers.members := by
  simp [contains]

theorem contains_add (subscribers : Subscribers ν) (member : ν) :
    (subscribers.add member).contains member := by
  unfold add
  split
  · assumption
  · simp [contains]

theorem contains_remove (subscribers : Subscribers ν) (member : ν) :
    (subscribers.remove member).contains member = false := by
  simp [contains, remove]

theorem issued_le_add (subscribers : Subscribers ν) (member : ν) :
    subscribers.issued ≤ (subscribers.add member).issued := by
  unfold add
  split
  · exact Nat.le_refl _
  · exact Nat.le_succ _

theorem mem_add {entry : Nat × ν} (h : entry ∈ (subscribers.add member).members) :
    entry ∈ subscribers.members ∨ entry = (subscribers.issued + 1, member) := by
  unfold add at h
  split at h
  · exact .inl h
  · simpa using h

theorem mem_add_of_mem {entry : Nat × ν} (h : entry ∈ subscribers.members) (member : ν) :
    entry ∈ (subscribers.add member).members := by
  unfold add
  split
  · exact h
  · exact List.mem_append_left _ h

theorem mem_remove {entry : Nat × ν} (h : entry ∈ (subscribers.remove member).members) :
    entry ∈ subscribers.members :=
  (List.mem_filter.mp h).1

theorem mem_remove_of_mem {entry : Nat × ν} (h : entry ∈ subscribers.members)
    (other : entry.2 ≠ member) : entry ∈ (subscribers.remove member).members :=
  List.mem_filter.mpr ⟨h, by simpa using other⟩

theorem Ordered.add (h : subscribers.Ordered) (member : ν) : (subscribers.add member).Ordered := by
  unfold Subscribers.add
  split
  · exact h
  · rename_i absent
    refine ⟨List.pairwise_append.mpr ⟨h.ascending, List.pairwise_singleton _ _, ?_⟩, ?_, ?_⟩
    · intro entry hm
      simpa using Nat.lt_succ_of_le (h.within entry hm).2
    · intro entry hm
      obtain hm | rfl := by simpa using hm
      · exact ⟨(h.within entry hm).1, Nat.le_succ_of_le (h.within entry hm).2⟩
      · exact ⟨Nat.succ_pos _, Nat.le_refl _⟩
    · have fresh : member ∉ subscribers.members.map (·.2) := by
        simpa [contains] using absent
      simpa using h.distinct.concat fresh

theorem Ordered.remove (h : subscribers.Ordered) (member : ν) :
    (subscribers.remove member).Ordered where
  ascending := h.ascending.filter _
  within entry hm := h.within entry (mem_remove hm)
  distinct := h.distinct.sublist (List.filter_sublist.map _)

/-- The ticket of a member; nobody has the ticket zero. -/
def ticketOf (subscribers : Subscribers ν) (member : ν) : Nat :=
  ((subscribers.members.find? (·.2 = member)).map (·.1)).getD 0

theorem Ordered.ticketOf_eq (h : subscribers.Ordered)
    (hm : (ticket, member) ∈ subscribers.members) : subscribers.ticketOf member = ticket := by
  unfold ticketOf
  cases hf : subscribers.members.find? (·.2 = member) with
  | none => exact absurd (List.find?_eq_none.mp hf _ hm) (by simp)
  | some entry =>
    have same : entry.2 = member := by simpa using List.find?_some hf
    have found : (entry.1, member) ∈ subscribers.members := same ▸ List.mem_of_find?_eq_some hf
    exact h.ticket_unique found hm

end KeyPrecedence.Subscribers
