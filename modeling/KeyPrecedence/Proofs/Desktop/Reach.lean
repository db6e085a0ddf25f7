import KeyPrecedence.Proofs.Desktop.Scene
import KeyPrecedence.Proofs.Dispatch.Ruling
import KeyPrecedence.Proofs.Subscribers
import KeyPrecedence.Proofs.Toast.Board
import KeyPrecedence.Proofs.Toast.Operation

/-!
# What a host can come to

* `Desktop.Reached`: a desktop that has come about by changes such as may be made on it;
* `Desktop.Reached.sound`: its toasts and timers go together;
* `Toolkit.Keeps.noted`: a toolkit whose calls are noted keeps what it keeps otherwise;
* `DesktopSurroundings.allKeep`, `DesktopSurroundings.keeps_perform`: there are no other changes,
  neither in a dispatch nor in any operation with the callbacks' own in it;
* `DesktopSurroundings.reached_play`: so this is what any code of the host finds and leaves.
-/

namespace KeyPrecedence

open Act

variable {σ τ κ ν δ : Type}

/-! ## Calls that are noted -/

theorem Act.Gives.map {α β : Type} {inv : σ → Prop} {fine : α → Prop} {good : β → Prop}
    {act : Act σ α} {f : α → β} (h : act.Gives inv fine)
    (hf : ∀ value, fine value → good (f value)) : (f <$> act).Gives inv good := by
  intro state hs
  refine (h state hs).bind ?_ ?_
  · rintro value reached ⟨kept, given⟩
    exact ⟨kept, by rintro _ ⟨⟩; exact hf value (given value rfl)⟩
  · rintro fault reached ⟨kept, -⟩
    exact ⟨kept, by rintro _ ⟨⟩⟩

theorem Toolkit.Keeps.noted {inv : σ → Prop} {toolkit : Toolkit (Act σ)} (keeps : toolkit.Keeps inv)
    {note : Call κ → Act σ Unit} (hn : ∀ call, Act.Keeps inv (note call)) :
    (toolkit.noted note).Keeps inv where
  rootOf := keeps.rootOf
  isKeyCapture := keeps.isKeyCapture
  isTextEditor := keeps.isTextEditor
  ancestorIsEditing := keeps.ancestorIsEditing
  isEnabled := keeps.isEnabled
  listenersOf widget := (keeps.listenersOf widget).map fun listenerAt kept position =>
    (kept position).map fun found hf listener he phase handle event hh => by
      obtain ⟨own, named, rfl⟩ := Option.map_eq_some_iff.mp he
      obtain ⟨act, there, rfl⟩ := Option.map_eq_some_iff.mp hh
      exact keeps_bind (hn _) fun _ => hf own named phase act event there
  bindingOf widget keystroke := (keeps.bindingOf widget keystroke).map fun found hf binding he => by
    obtain ⟨own, named, rfl⟩ := Option.map_eq_some_iff.mp he
    have kept := hf own named
    exact ⟨fun asked => keeps_bind (hn _) fun _ => kept.1 asked,
      keeps_bind (hn _) fun _ => kept.2⟩

/-! ## Changes -/

/-- A desktop that has come about from a host's start by changes of its toasts, one at a time, and
any changes of all else. -/
inductive Desktop.Reached : Desktop τ κ ν δ → Prop
  | start (host : τ) : Reached { host }
  | elsewhere {desktop other : Desktop τ κ ν δ} (h : Reached desktop)
      (same : other.board = desktop.board) : Reached other
  | place {desktop : Desktop τ κ ν δ} {board : ToastBoard} (h : Reached desktop) (toast : Toast)
      (placed : desktop.board.place toast = some board) : Reached { desktop with board }
  | remove {desktop : Desktop τ κ ν δ} (h : Reached desktop) (id : String) :
      Reached { desktop with board := (desktop.board.remove id).1 }
  | removeTransient {desktop : Desktop τ κ ν δ} (h : Reached desktop) :
      Reached { desktop with board := desktop.board.removeTransient }
  | clear {desktop : Desktop τ κ ν δ} (h : Reached desktop) :
      Reached { desktop with board := desktop.board.clear }
  /-- A timer fires, and takes its toast off. -/
  | expire {desktop : Desktop τ κ ν δ} {limit : Number} {timer : Timer} (h : Reached desktop)
      (next : desktop.board.clock.next limit = some timer) :
      Reached { desktop with board := ((desktop.board.fire timer).remove timer.subject).1 }
  | setTime {desktop : Desktop τ κ ν δ} (h : Reached desktop) (now : Number) :
      Reached { desktop with board := desktop.board.setTime now }

theorem Desktop.Reached.sound {desktop : Desktop τ κ ν δ} (h : desktop.Reached) :
    ∃ additions, desktop.board.Sound additions := by
  induction h with
  | start host => exact ⟨[], ToastBoard.sound_empty⟩
  | elsewhere _ same ih => exact same ▸ ih
  | @place desktop board _ toast placed ih =>
    obtain ⟨additions, sound⟩ := ih
    have result := sound.place toast
    rw [placed] at result
    exact ⟨_, result⟩
  | remove _ id ih =>
    obtain ⟨additions, sound⟩ := ih
    exact ⟨additions, sound.remove id⟩
  | removeTransient _ ih =>
    obtain ⟨additions, sound⟩ := ih
    exact ⟨additions, sound.removeTransient⟩
  | clear _ ih =>
    obtain ⟨additions, sound⟩ := ih
    exact ⟨additions, sound.clear⟩
  | @expire desktop limit timer _ next ih =>
    obtain ⟨additions, sound⟩ := ih
    have expired : ((desktop.board.fire timer).remove timer.subject).1 =
        (desktop.board.remove timer.subject).1.setTime timer.due :=
      congrArg Prod.fst (sound.remove_fire (Clock.mem_of_next next))
    exact ⟨additions, expired ▸ (sound.remove timer.subject).setTime timer.due⟩
  | setTime _ now ih =>
    obtain ⟨additions, sound⟩ := ih
    exact ⟨additions, sound.setTime now⟩

/-! ## Every operation -/

namespace DesktopSurroundings

variable {around : DesktopSurroundings τ κ ν δ}
  {nested : DesktopOp κ ν δ → Act (Desktop τ κ ν δ) (DesktopAnswer κ)} {desktop : Desktop τ κ ν δ}

section
variable (inner : ∀ operation, Keeps Desktop.Reached (nested operation))

include inner

theorem keeps_code {α : Type} (code : DesktopCode τ κ ν δ α) :
    Keeps Desktop.Reached (code.within nested) :=
  Routine.keeps_run (fun _ _ h => h.elsewhere rfl) inner code

/-- Code whose call is noted first. -/
theorem keeps_noted {α : Type} (happening : Happening κ ν δ) (code : DesktopCode τ κ ν δ α) :
    Keeps Desktop.Reached (do
      modify (Desktop.note happening)
      code.within nested : Act (Desktop τ κ ν δ) α) :=
  keeps_bind (keeps_modify fun _ h => h.elsewhere rfl) fun _ => keeps_code inner code

theorem ends_publish {board : ToastBoard} (h : Desktop.Reached { desktop with board }) :
    ((around.toasts nested).publish board).Ends desktop fun _ => Desktop.Reached := by
  refine Slot.ends_write_bind.mpr (Subscribers.keeps_callAll (fun member => ?_) _ _ h)
  exact keeps_bind Slot.keeps_read fun board => keeps_noted inner _ _

theorem ends_dismiss {id : String}
    (h : Desktop.Reached { desktop with board := (desktop.board.remove id).1 }) :
    ((around.toasts nested).dismiss id).Ends desktop fun _ => Desktop.Reached :=
  ToastHost.ends_dismiss (ends_publish inner h) fun _ => h

/-- Timers fire one after another, and each takes its own toast off. -/
theorem keeps_advance (around : DesktopSurroundings τ κ ν δ) (ms : Number) :
    Keeps Desktop.Reached ((around.toasts nested).advance ms) := by
  apply ToastHost.keeps_advance
  · intro desktop limit timer h next
    exact ToastHost.ends_firing (ends_dismiss inner (h.expire next)) fun _ => keeps_noted inner _ _
  · exact fun desktop now h => h.setTime now

theorem keeps_add [DecidableEq ν] (around : DesktopSurroundings τ κ ν δ) (content : String)
    (options : ToastOptions) :
    Keeps Desktop.Reached ((around.toasts nested).add content options) :=
  ToastHost.keeps_add (keeps_code inner _) (fun h placed => ends_publish inner (h.place _ placed))
    content options

theorem leads_announceAll (around : DesktopSurroundings τ κ ν δ) (ids : List String) :
    Leads Desktop.Reached Desktop.Reached ((around.registryHost nested).announceAll ids) := by
  apply RegistryHost.leads_announceAll
  intro member id
  have called : Keeps Desktop.Reached ((around.registryHost nested).call member id) :=
    keeps_noted inner _ _
  exact leads_guarded called fun _ => leads_modify fun _ h => h.elsewhere rfl

theorem keeps_edit (around : DesktopSurroundings τ κ ν δ) (edit : ShortcutEdit Number) :
    Keeps Desktop.Reached ((around.registryHost nested).edit edit) := by
  intro desktop h
  apply RegistryHost.ends_edit _ h (fun _ => leads_modify fun _ h => h.elsewhere rfl)
  · exact fun _ _ _ hr => hr
  · rintro (_ | ⟨registry, ids⟩) reached - hr
    · exact hr
    · have told := leads_announceAll inner around ids { reached with registry } (hr.elsewhere rfl)
      exact Slot.ends_write_bind.mpr (told.mono fun _ _ kept => kept.2)

variable [DecidableEq ν]

theorem keeps_showNotEnabled (around : DesktopSurroundings τ κ ν δ) (name id : String) :
    Keeps Desktop.Reached
      (showNotEnabled (Desktop.part around.settings) (around.toasts nested) name id) := by
  refine keeps_bind Slot.keeps_read fun settings => ?_
  split
  · exact keeps_bind (keeps_add inner around _ _) fun _ => keeps_pure _
  · exact keeps_pure _

theorem keeps_toast (around : DesktopSurroundings τ κ ν δ) (operation : ToastOp ν) :
    Keeps Desktop.Reached ((around.toasts nested).perform operation) := by
  intro desktop h
  cases operation with
  | call call =>
    cases call with
    | add content options => exact (keeps_add inner around content options desktop h).bind_pure
    | dismiss id => exact (ends_dismiss inner (h.remove id)).bind_pure
    | dismissTransient =>
      exact Ends.bind_pure (Slot.ends_read_bind.mpr (ends_publish inner h.removeTransient))
    | clear => exact Ends.bind_pure (Slot.ends_read_bind.mpr (ends_publish inner h.clear))
    | glance glance => cases glance <;> exact h.elsewhere rfl
  | wait ms => exact (keeps_advance inner around ms desktop h).bind_pure

variable [DecidableEq δ]

/-- All that a dispatcher calls is code of the host, but for its own toast. -/
theorem allKeep (around : DesktopSurroundings τ κ ν δ) (dispatcher : δ) :
    (around.dispatcher nested dispatcher).AllKeep Desktop.Reached where
  toolkit := (Toolkit.keeps_map (fun code => keeps_code inner code) around.toolkit).noted
    fun _ => keeps_modify fun _ h => h.elsewhere rfl
  commandFor _ _ := keeps_noted inner _ _
  menu processes event hm := by
    obtain ⟨own, -, rfl⟩ := Option.map_eq_some_iff.mp hm
    exact keeps_noted inner _ _
  decide _ _ := keeps_noted inner _ _
  report _ _ := keeps_noted inner _ _
  toast name id := keeps_bind (keeps_modify fun _ h => h.elsewhere rfl) fun _ =>
    keeps_showNotEnabled inner around _ _
  consumed _ _ _ h := h.elsewhere rfl
  log _ := keeps_modify fun _ h => h.elsewhere rfl
  owner := keeps_code inner _
  window := keeps_code inner _
  run _ _ := keeps_noted inner _ _

theorem keeps_operate (around : DesktopSurroundings τ κ ν δ) (operation : DesktopOp κ ν δ) :
    Keeps Desktop.Reached (around.operate nested operation) := by
  cases operation with
  | dispatch dispatcher event =>
    have dispatched := (allKeep inner around dispatcher).dispatch event fun _ _ h => h.elsewhere rfl
    refine keeps_bind (keeps_attempt dispatched) fun result => ?_
    refine keeps_bind Slot.keeps_read fun consumed => ?_
    exact keeps_bind (keeps_modify fun _ h => h.elsewhere rfl) fun _ =>
      keeps_bind (keeps_ofExcept _) fun _ => keeps_pure _
  | register definition =>
    refine keeps_bind (keeps_bind Slot.keeps_read fun registry => ?_) fun _ => keeps_pure _
    refine keeps_bind (keeps_ofExcept _) fun registered => ?_
    refine keeps_bind (Slot.keeps_write fun _ h => h.elsewhere rfl) fun _ => ?_
    exact keeps_bind (keeps_modify fun _ h => h.elsewhere rfl) fun _ => keeps_pure _
  | edit edit => exact keeps_bind (keeps_edit inner around edit) fun _ => keeps_pure _
  | resolve table fallback keystroke window =>
    refine keeps_bind (keeps_bind Slot.keeps_read fun registry => ?_) fun _ => keeps_pure _
    dsimp only
    split
    · exact keeps_bind (keeps_modify fun _ h => h.elsewhere rfl) fun _ => keeps_pure _
    · exact keeps_pure _
  | toast operation =>
    exact keeps_bind (keeps_toast inner around operation) fun _ => keeps_pure _
  | reset | armed | unregister | ask | conflictsFor | hasConflicts | conflicts | subscribe
  | unsubscribe => exact fun _ h => h.elsewhere rfl

end

variable [DecidableEq ν] [DecidableEq δ]

theorem keeps_perform (around : DesktopSurroundings τ κ ν δ) :
    ∀ depth operation, Keeps Desktop.Reached (around.perform depth operation) :=
  keeps_nesting fun _ inner operation => keeps_followedBy (keeps_operate inner around operation)
    (keeps_modify fun _ h => h.elsewhere rfl)

/-- Whatever code does on a host, from a desktop that was reached. -/
theorem reached_play (around : DesktopSurroundings τ κ ν δ) (depth : Nat) {α : Type}
    (code : DesktopCode τ κ ν δ α) : Keeps Desktop.Reached (around.play depth code) :=
  keeps_code (keeps_perform around depth) code

end DesktopSurroundings
end KeyPrecedence
