import Mathlib.Data.List.Infix
import KeyPrecedence.Proofs.Command.Registry
import KeyPrecedence.Proofs.Command.Resolution

/-!
# Reading shortcuts back

* `Platform.lead`, `Platform.shortcut_eq`: what stands before the key in a shortcut;
* `Marks.strip_spell`: marks are taken off a text as they were put on, when none of them begins
  another one or the name behind them;
* `Platform.decode_shortcut`: so a shortcut gives back the modifiers it shows and the key's name;
* `shortcuts_tell_apart`: what looks different to the user is never found under one shortcut.
-/

namespace KeyPrecedence

namespace Platform

/-! ## What stands before the key -/

/-- What stands before the key in a shortcut. -/
def lead : Platform → Modifiers → String
  | .mac, modifiers => String.join (mac.marks modifiers)
  | .other, modifiers => String.join ((other.marks modifiers).map (· ++ "+"))

theorem intercalate_snoc (separator name : String) (marks : List String) :
    separator.intercalate (marks ++ [name]) =
      String.join (marks.map (· ++ separator)) ++ name := by
  induction marks with
  | nil => simp
  | cons mark marks ih =>
    cases marks with
    | nil => simp [String.append_assoc]
    | cons next marks =>
      simp only [List.cons_append] at ih ⊢
      rw [String.intercalate_cons_cons, ih]
      simp [String.append_assoc]

theorem shortcut_eq (platform : Platform) {input : KeyInput} (plain : input.isModifierKey = false) :
    platform.shortcut input = platform.lead input.modifiers ++ platform.keyName input.key := by
  cases platform with
  | mac => simp [shortcut, plain, join, lead]
  | other => simp [shortcut, plain, join, lead, intercalate_snoc]

end Platform

/-! ## Marks in front of a name -/

namespace Marks

/-- The marks that are held, one after another. -/
def spell : List (List Char) → List Bool → List Char
  | mark :: marks, held :: rest => (if held then mark else []) ++ spell marks rest
  | _, _ => []

/-- Takes the marks off a text in turn, and tells which of them it began with. -/
def strip : List (List Char) → List Char → List Bool × List Char
  | [], text => ([], text)
  | mark :: marks, text =>
    match text.dropPrefix? mark with
    | some rest => (strip marks rest).map (true :: ·) id
    | none => (strip marks text).map (false :: ·) id

/-- Neither of two marks begins the other. -/
def Apart (a b : List Char) : Prop := ¬ a <+: b ∧ ¬ b <+: a

variable {marks : List (List Char)} {mark name text : List Char} {held : List Bool}

/-- A mark is not mistaken for later ones. -/
theorem not_prefix_spell (apart : ∀ later ∈ marks, Apart mark later) (clear : ¬ mark <+: name)
    (held : List Bool) : ¬ mark <+: spell marks held ++ name := by
  induction marks generalizing held with
  | nil => simpa [spell] using clear
  | cons later marks ih =>
    have others := ih fun other hm => apart other (.tail _ hm)
    cases held with
    | nil => simpa [spell] using clear
    | cons shown held =>
      cases shown with
      | false => simpa [spell] using others held
      | true =>
        -- Two beginnings of one text are comparable, and these two are not.
        intro begins
        obtain ⟨left, right⟩ := apart later (.head _)
        have next : later <+: spell (later :: marks) (true :: held) ++ name := by
          simp [spell, List.append_assoc]
        rcases List.prefix_or_prefix_of_prefix begins next with h | h
        · exact left h
        · exact right h

theorem strip_cons_append (mark rest : List Char) (marks : List (List Char)) :
    strip (mark :: marks) (mark ++ rest) = (strip marks rest).map (true :: ·) id := by
  have dropped : (mark ++ rest).dropPrefix? mark = some rest :=
    List.dropPrefix?_append_of_beq rest (beq_self_eq_true mark)
  simp [strip, dropped]

theorem strip_cons_of_absent (absent : ¬ mark <+: text) :
    strip (mark :: marks) text = (strip marks text).map (false :: ·) id := by
  have kept : text.dropPrefix? mark = none := by
    rw [Option.eq_none_iff_forall_ne_some]
    intro rest dropped
    obtain ⟨begin, rfl, same⟩ := List.dropPrefix?_eq_some_iff.mp dropped
    obtain rfl : begin = mark := eq_of_beq same
    exact absent (List.prefix_append _ _)
  simp [strip, kept]

/-- Marks come off a text as they were put on. -/
theorem strip_spell (apart : marks.Pairwise Apart) (clear : ∀ mark ∈ marks, ¬ mark <+: name)
    (each : held.length = marks.length) :
    strip marks (spell marks held ++ name) = (held, name) := by
  induction marks generalizing held with
  | nil =>
    obtain rfl := List.eq_nil_of_length_eq_zero each
    rfl
  | cons mark marks ih =>
    obtain ⟨shown, held, rfl⟩ := List.exists_cons_of_length_eq_add_one each
    obtain ⟨first, rest⟩ := List.pairwise_cons.mp apart
    have stripped : strip marks (spell marks held ++ name) = (held, name) :=
      ih rest (fun other hm => clear other (.tail _ hm)) (Nat.succ.inj each)
    cases shown with
    | true =>
      show strip (mark :: marks) (mark ++ spell marks held ++ name) = _
      rw [List.append_assoc, strip_cons_append, stripped]
      rfl
    | false =>
      show strip (mark :: marks) (spell marks held ++ name) = _
      rw [strip_cons_of_absent (not_prefix_spell first (clear mark (.head _)) held), stripped]
      rfl

end Marks

/-! ## Reading a shortcut -/

namespace Platform

/-- The marks a platform puts before a key, in this order, with what separates them from it. -/
def stems : Platform → List (List Char)
  | mac => [['⌘'], ['⌃'], ['⌥'], ['⇧']]
  | other => [['C', 't', 'r', 'l', '+'], ['A', 'l', 't', '+'], ['A', 'l', 't', 'G', 'r', '+'],
      ['S', 'h', 'i', 'f', 't', '+'], ['W', 'i', 'n', '+']]

/-- Which of the marks stand before a key. -/
def held : Platform → Modifiers → List Bool
  | mac, m => [m.logo, m.ctrl, m.alt, m.shift]
  | other, m => [m.ctrl, m.alt, m.altGraph, m.shift, m.logo]

def ofHeld : Platform → List Bool → Modifiers
  | mac, [logo, ctrl, alt, shift] => { logo, ctrl, alt, shift }
  | other, [ctrl, alt, altGraph, shift, logo] => { ctrl, alt, altGraph, shift, logo }
  | _, _ => {}

/-- What a shortcut shows of the modifiers: all of them, except for AltGraph on a Mac. -/
def shown : Platform → Modifiers → Modifiers
  | mac, m => { m with altGraph := false }
  | other, m => m

/-- Names that are not mistaken for marks: on a Mac those that begin with none, elsewhere the plus
sign itself and the names without one. -/
def Legible : Platform → String → Prop
  | mac, name => ∀ c ∈ ['⌘', '⌃', '⌥', '⇧'], name.toList.head? ≠ some c
  | other, name => '+' ∉ name.toList ∨ name = "+"

instance : (platform : Platform) → (name : String) → Decidable (platform.Legible name)
  | mac, name =>
    inferInstanceAs (Decidable (∀ c ∈ ['⌘', '⌃', '⌥', '⇧'], name.toList.head? ≠ some c))
  | other, name => inferInstanceAs (Decidable ('+' ∉ name.toList ∨ name = "+"))

/-- The modifiers a shortcut shows, and the name of its key. -/
def decode (platform : Platform) (shortcut : String) : Modifiers × String :=
  (Marks.strip platform.stems shortcut.toList).map platform.ofHeld String.ofList

theorem ofHeld_held (platform : Platform) (modifiers : Modifiers) :
    platform.ofHeld (platform.held modifiers) = platform.shown modifiers := by
  cases platform <;> rfl

theorem lead_shown (platform : Platform) (modifiers : Modifiers) :
    platform.lead (platform.shown modifiers) = platform.lead modifiers := by
  cases platform <;> rfl

theorem apart_stems (platform : Platform) : platform.stems.Pairwise Marks.Apart := by
  unfold Marks.Apart
  cases platform <;> decide

theorem toList_lead (platform : Platform) (modifiers : Modifiers) :
    (platform.lead modifiers).toList = Marks.spell platform.stems (platform.held modifiers) := by
  obtain ⟨ctrl, alt, altGraph, shift, logo⟩ := modifiers
  revert ctrl alt altGraph shift logo
  cases platform <;> decide

/-- No mark begins a legible name. -/
theorem Legible.clear {platform : Platform} {name : String} (legible : platform.Legible name) :
    ∀ mark ∈ platform.stems, ¬ mark <+: name.toList := by
  rintro mark hm ⟨rest, begins⟩
  cases platform with
  | mac =>
    have single : mark ∈ ['⌘', '⌃', '⌥', '⇧'].map fun c => [c] := hm
    obtain ⟨c, hc, rfl⟩ := List.mem_map.mp single
    exact legible c hc (by rw [← begins]; rfl)
  | other =>
    -- A mark ends in a plus sign, and is longer than one.
    have signed : ∀ mark ∈ other.stems, '+' ∈ mark ∧ 1 < mark.length := by decide
    obtain ⟨plus, long⟩ := signed mark hm
    rcases legible with without | rfl
    · rw [← begins] at without
      exact without (List.mem_append_left _ plus)
    · have length := congrArg List.length begins
      rw [List.length_append] at length
      have one : "+".toList.length = 1 := by decide
      omega

/-- A shortcut gives back what it shows. -/
theorem decode_shortcut {platform : Platform} {input : KeyInput}
    (plain : input.isModifierKey = false)
    (legible : platform.Legible (platform.keyName input.key)) :
    platform.decode (platform.shortcut input) =
      (platform.shown input.modifiers, platform.keyName input.key) := by
  have each : (platform.held input.modifiers).length = platform.stems.length := by
    cases platform <;> rfl
  rw [decode, shortcut_eq platform plain, String.toList_append, toList_lead,
    Marks.strip_spell platform.apart_stems legible.clear each, Prod.map_apply, ofHeld_held,
    String.ofList_toList]

/-- Names of keys may read like marks: a plus sign, the name of a modifier, nothing at all. -/
example :
    ["Ctrl++", "Ctrl+AltGr", "Ctrl+AltGr+", "+"].map other.decode =
      [({ ctrl := true }, "+"), ({ ctrl := true }, "AltGr"),
        ({ ctrl := true, altGraph := true }, ""), ({}, "+")] := by
  decide

theorem shortcut_eq_iff {platform : Platform} {a b : KeyInput} (plainA : a.isModifierKey = false)
    (plainB : b.isModifierKey = false) (legibleA : platform.Legible (platform.keyName a.key))
    (legibleB : platform.Legible (platform.keyName b.key)) :
    platform.shortcut a = platform.shortcut b ↔
      platform.shown a.modifiers = platform.shown b.modifiers ∧
        platform.keyName a.key = platform.keyName b.key := by
  constructor
  · intro same
    have decoded := congrArg platform.decode same
    rw [decode_shortcut plainA legibleA, decode_shortcut plainB legibleB] at decoded
    exact Prod.mk.inj decoded
  · rintro ⟨modifiers, name⟩
    rw [shortcut_eq platform plainA, shortcut_eq platform plainB, ← lead_shown, modifiers,
      lead_shown, name]

end Platform

/-- Shortcuts are read in one way only: they are the same exactly when they show the same modifiers
and the same key. So no shortcut of a command and no binding answers to two keystrokes that differ
in what is shown: a command that both stand for has a shortcut for each, and a binding for one of
them changes nothing for the other. -/
theorem shortcuts_tell_apart {platform : Platform} {a b : KeyInput}
    (plainA : a.isModifierKey = false) (plainB : b.isModifierKey = false)
    (legibleA : platform.Legible (platform.keyName a.key))
    (legibleB : platform.Legible (platform.keyName b.key)) :
    (platform.shortcut a = platform.shortcut b ↔
      platform.shown a.modifiers = platform.shown b.modifiers ∧
        platform.keyName a.key = platform.keyName b.key) ∧
    (platform.shown a.modifiers ≠ platform.shown b.modifiers ∨
        platform.keyName a.key ≠ platform.keyName b.key →
      platform.shortcut a ≠ platform.shortcut b ∧
      (∀ {κ : Type} (registry : Registry κ) (table : ScopeTable) (fallback : String)
          (phaseA phaseB : Phase) (windowA windowB : Window) (command : Command κ),
        (registry.resolve table fallback (platform.keystroke a phaseA) windowA).command =
          some command →
        (registry.resolve table fallback (platform.keystroke b phaseB) windowB).command =
          some command →
        platform.shortcut a ∈ registry.effective command.id ∧
          platform.shortcut b ∈ registry.effective command.id) ∧
      ∀ {β : Type} (bindings : Table Keystroke β) (binding : β) (phaseA phaseB : Phase),
        (bindings.insert (platform.keystroke a phaseA) binding).find?
            (platform.keystroke b phaseB) =
          bindings.find? (platform.keystroke b phaseB)) := by
  have same := Platform.shortcut_eq_iff plainA plainB legibleA legibleB
  refine ⟨same, fun differ => ?_⟩
  have apart : platform.shortcut a ≠ platform.shortcut b := by
    intro equal
    obtain ⟨modifiers, name⟩ := same.mp equal
    rcases differ with h | h
    · exact h modifiers
    · exact h name
  refine ⟨apart, ?_, ?_⟩
  · intro κ registry table fallback phaseA phaseB windowA windowB command hitA hitB
    exact ⟨Registry.bound_of_resolve hitA, Registry.bound_of_resolve hitB⟩
  · intro β bindings binding phaseA phaseB
    have keys : platform.keystroke a phaseA ≠ platform.keystroke b phaseB := fun equal =>
      apart (congrArg Keystroke.shortcut equal)
    rw [Table.find?_insert, if_neg keys]

namespace Typist

/-- The plus sign, with Control. -/
def plus : KeyInput := ⟨"+", { ctrl := true }⟩

/-- A key that is named like the mark of a modifier, with Control. -/
def altGr : KeyInput := ⟨"AltGr", { ctrl := true }⟩

theorem plus_altGr_apart :
    (plus.isModifierKey = false ∧ altGr.isModifierKey = false ∧
      Platform.other.Legible (Platform.other.keyName plus.key) ∧
      Platform.other.Legible (Platform.other.keyName altGr.key)) ∧
    Platform.other.shortcut plus ≠ Platform.other.shortcut altGr := by
  have plainA : plus.isModifierKey = false := by decide
  have plainB : altGr.isModifierKey = false := by decide
  have legibleA : Platform.other.Legible (Platform.other.keyName plus.key) := by decide
  have legibleB : Platform.other.Legible (Platform.other.keyName altGr.key) := by decide
  refine ⟨⟨plainA, plainB, legibleA, legibleB⟩, ?_⟩
  obtain ⟨-, apart⟩ := shortcuts_tell_apart plainA plainB legibleA legibleB
  exact (apart (.inr (by decide))).1

/-- A command on two keys. -/
def save : Definition Unit :=
  { id := "file.save", name := "Save", shortcuts := some ["Ctrl+S", "F2"], execute := () }

/-- Keystrokes that differ both in a modifier and in the key stand for one command that has a
shortcut for each. -/
theorem save_on_two_keys :
    let s : KeyInput := ⟨"s", { ctrl := true }⟩
    let f2 : KeyInput := ⟨"F2", {}⟩
    let registry : Registry Unit := { commands := [save.command] }
    let found input := (registry.resolve .default ScopeTable.appScope
      (Platform.other.keystroke input .pressed) (.free "main" "Main window")).command
    s.isModifierKey = false ∧ f2.isModifierKey = false ∧
      Platform.other.Legible (Platform.other.keyName s.key) ∧
      Platform.other.Legible (Platform.other.keyName f2.key) ∧
      Platform.other.shown s.modifiers ≠ Platform.other.shown f2.modifiers ∧
      Platform.other.keyName s.key ≠ Platform.other.keyName f2.key ∧
      registry.Reachable ∧ found s = some save.command ∧ found f2 = some save.command := by
  have reachable := Registry.reachable_of_definitions [save] (by decide)
  refine ⟨by decide, by decide, by decide, by decide, by decide, by decide, reachable, ?_, ?_⟩
  · decide
  · decide

end Typist

end KeyPrecedence
