import KeyPrecedence.Setting.Host
import KeyPrecedence.Proofs.Ends

/-!
# Which settings are accepted

* `SettingId.Fits`: the values a setting may have;
* `Settings.put_of_fits`, `Settings.put_of_not_fits`, `validate_ok_iff`: changing a setting goes
  through for these values only, and changes no other setting;
* `Settings.Offends`, `Settings.FirstOffence`: entries that cannot be loaded;
* `Settings.load_of_clean`, `Settings.load_of_offends`: all entries are loaded, the last one under a
  name last, or the first that cannot be loaded is named.
-/

namespace KeyPrecedence

namespace SettingId

/-- A duration is bounded on both sides and finite; the other settings are switches. -/
def Fits : SettingId → Value → Prop
  | notEnabledToastDuration, value =>
    ∃ ms : Rat, 500 ≤ ms ∧ ms ≤ 30000 ∧ value = .number (.finite ms)
  | _, value => ∃ on, value = .bool on

theorem ofName?_name (id : SettingId) : ofName? id.name = some id := by
  cases id <;> rfl

theorem name_injective {id other : SettingId} (h : id.name = other.name) : id = other := by
  have found := ofName?_name id
  rw [h, ofName?_name] at found
  exact (Option.some.inj found).symm

theorem name_of_ofName? {name : String} {id : SettingId} (h : ofName? name = some id) :
    id.name = name := by
  simpa using List.find?_some h

theorem ofName?_eq_some_iff {name : String} {id : SettingId} :
    ofName? name = some id ↔ id.name = name := by
  constructor
  · exact name_of_ofName?
  · rintro rfl
    exact ofName?_name id

end SettingId

/-! ## One setting -/

theorem readBool_of_not_fits {value : Value} (h : ¬ ∃ on, value = .bool on) :
    ∃ refusal, readBool value = .error refusal := by
  cases value with
  | bool on => exact absurd ⟨on, rfl⟩ h
  | _ => exact ⟨_, rfl⟩

theorem readDuration_of_fits {ms : Rat} (least : 500 ≤ ms) (most : ms ≤ 30000) :
    ∃ duration, readDuration (.number (.finite ms)) = .ok duration ∧ duration.ms = ms := by
  have within : leastDuration ≤ ms ∧ ms ≤ mostDuration := ⟨least, most⟩
  simp only [readDuration, dif_pos within]
  exact ⟨_, rfl, rfl⟩

theorem readDuration_of_not_fits {value : Value}
    (h : ¬ ∃ ms : Rat, 500 ≤ ms ∧ ms ≤ 30000 ∧ value = .number (.finite ms)) :
    ∃ refusal, readDuration value = .error refusal := by
  unfold readDuration
  split
  · rename_i ms
    rw [dif_neg fun within => h ⟨ms, within.1, within.2, rfl⟩]
    exact ⟨_, rfl⟩
  · exact ⟨_, rfl⟩

namespace Settings

variable {settings : Settings} {id : SettingId} {value : Value}

theorem fits_valueOf (settings : Settings) (id : SettingId) : id.Fits (settings.valueOf id) := by
  cases id with
  | notEnabledToastDuration =>
    let duration := settings.notEnabledToastDuration
    exact ⟨duration.ms, duration.least_le, duration.le_most, rfl⟩
  | notEnabledFeedback | verboseLogging => exact ⟨_, rfl⟩

theorem put_of_fits (settings : Settings) (fits : id.Fits value) :
    ∃ changed, settings.put (.defined id) value = .ok changed ∧
      ∀ other, changed.valueOf other = if other = id then value else settings.valueOf other := by
  cases id with
  | notEnabledToastDuration =>
    obtain ⟨ms, least, most, rfl⟩ := fits
    obtain ⟨duration, read, same⟩ := readDuration_of_fits least most
    refine ⟨{ settings with notEnabledToastDuration := duration }, ?_, ?_⟩
    · simp only [put, change, read]
      rfl
    · intro other
      cases other <;> simp [valueOf, same]
  | notEnabledFeedback | verboseLogging =>
    obtain ⟨on, rfl⟩ := fits
    refine ⟨_, rfl, ?_⟩
    intro other
    cases other <;> simp [valueOf]

/-- The setting is named, and the reason does not depend on the other settings. -/
theorem put_of_not_fits (unfit : ¬ id.Fits value) :
    ∃ refusal, ∀ settings : Settings,
      settings.put (.defined id) value = .error (.setting id.name refusal) := by
  cases id with
  | notEnabledToastDuration =>
    obtain ⟨refusal, read⟩ := readDuration_of_not_fits unfit
    refine ⟨refusal, fun settings => ?_⟩
    simp only [put, change, read]
    rfl
  | notEnabledFeedback | verboseLogging =>
    obtain ⟨refusal, read⟩ := readBool_of_not_fits unfit
    refine ⟨refusal, fun settings => ?_⟩
    simp only [put, change, read]
    rfl

end Settings

theorem validate_ok_iff {id : SettingId} {value : Value} :
    validate (.defined id) value = .ok () ↔ id.Fits value := by
  unfold validate
  by_cases fits : id.Fits value
  · obtain ⟨changed, put, -⟩ := Settings.put_of_fits {} fits
    simp [put, fits, Except.map]
  · obtain ⟨refusal, put⟩ := Settings.put_of_not_fits fits
    simp [put, fits, Except.map]

/-! ## Settings as a whole -/

namespace Settings

variable {entries rest : List (String × Value)} {name : String} {value : Value} {id : SettingId}

/-- An entry that cannot be loaded: it is given, and no setting of its name may have its value. -/
def Offends (entry : String × Value) : Prop :=
  entry.2 ≠ .missing ∧ ¬ ∃ id : SettingId, id.name = entry.1 ∧ id.Fits entry.2

/-- Why an entry cannot be loaded. -/
inductive Refused (name : String) (value : Value) : SettingRefusal → Prop
  | unknown (nameless : ∀ id : SettingId, id.name ≠ name) : Refused name value .unknown
  | unfit {refusal : SettingRefusal} (id : SettingId) (named : id.name = name)
      (invalid : validate (.defined id) value = .error (.setting name refusal)) :
      Refused name value refusal

/-- A fault that names the first entry that cannot be loaded, and says what is wrong with it. -/
def FirstOffence (entries : List (String × Value)) (fault : Fault) : Prop :=
  ∃ before name value after refusal, entries = before ++ (name, value) :: after ∧
    (∀ entry ∈ before, ¬ Offends entry) ∧ Offends (name, value) ∧
    fault = .setting name refusal ∧ Refused name value refusal

/-- What one entry gives a setting. -/
def offered (id : SettingId) : String × Value → Option Value
  | (_, .missing) => none
  | (name, value) => if id.name = name then some value else none

/-- What entries give a setting. If they could give it more than once, the last would count. -/
def given (id : SettingId) : List (String × Value) → Option Value
  | [] => none
  | entry :: rest => (given id rest).or (offered id entry)

theorem putAll_cons (present : value ≠ .missing) (settings : Settings) (count : Nat) :
    putAll ((name, value) :: rest) (settings, count) =
      match SettingId.ofName? name with
      | none => .error (.setting name .unknown)
      | some id => settings.put (.defined id) value >>= fun changed =>
          putAll rest (changed, count + 1) := by
  cases value with
  | missing => exact absurd rfl present
  | _ => rfl

theorem offered_of_present (present : value ≠ .missing) :
    offered id (name, value) = if id.name = name then some value else none := by
  cases value with
  | missing => exact absurd rfl present
  | _ => rfl

/-- An entry that can be loaded is put on top of what is there, and the rest follows. -/
theorem putAll_cons_of_clean {entry : String × Value} (clean : ¬ Offends entry)
    (result : Settings × Nat) :
    ∃ next : Settings × Nat,
      (∀ id, next.1.valueOf id = (offered id entry).getD (result.1.valueOf id)) ∧
      ∀ rest, putAll (entry :: rest) result = putAll rest next := by
  obtain ⟨name, value⟩ := entry
  obtain ⟨settings, count⟩ := result
  by_cases missing : value = .missing
  · subst missing
    exact ⟨(settings, count), fun _ => rfl, fun _ => rfl⟩
  · have fits : ∃ id : SettingId, id.name = name ∧ id.Fits value :=
      Classical.byContradiction fun unfit => clean ⟨missing, unfit⟩
    obtain ⟨id, rfl, fits⟩ := fits
    obtain ⟨changed, put, values⟩ := put_of_fits settings fits
    refine ⟨(changed, count + 1), fun other => ?_, fun rest => ?_⟩
    · rw [values other, offered_of_present missing]
      by_cases own : other = id
      · simp [own]
      · have named : other.name ≠ id.name := fun same => own (SettingId.name_injective same)
        simp [own, named]
    · rw [putAll_cons missing, SettingId.ofName?_name]
      simp only [put]
      rfl

/-- An entry that cannot be loaded ends the loading, wherever it has come to. -/
theorem putAll_cons_of_offends {entry : String × Value} (offends : Offends entry) :
    ∃ refusal, Refused entry.1 entry.2 refusal ∧
      ∀ rest result, putAll (entry :: rest) result = .error (.setting entry.1 refusal) := by
  obtain ⟨name, value⟩ := entry
  obtain ⟨present, unfit⟩ := offends
  dsimp only at present unfit ⊢
  cases found : SettingId.ofName? name with
  | none =>
    have nameless (id : SettingId) : id.name ≠ name := fun named => by
      simp [SettingId.ofName?_eq_some_iff.mpr named] at found
    refine ⟨.unknown, .unknown nameless, fun rest (settings, count) => ?_⟩
    rw [putAll_cons present, found]
  | some id =>
    have named : id.name = name := SettingId.name_of_ofName? found
    obtain ⟨refusal, put⟩ := put_of_not_fits fun fits => unfit ⟨id, named, fits⟩
    rw [named] at put
    have invalid : validate (.defined id) value = .error (.setting name refusal) := by
      unfold validate
      rw [put]
      rfl
    refine ⟨refusal, .unfit id named invalid, fun rest (settings, count) => ?_⟩
    rw [putAll_cons present, found]
    simp only [put]
    rfl

theorem putAll_of_clean (clean : ∀ entry ∈ entries, ¬ Offends entry) (result : Settings × Nat) :
    ∃ loaded, putAll entries result = .ok loaded ∧
      ∀ id, loaded.1.valueOf id = (given id entries).getD (result.1.valueOf id) := by
  induction entries generalizing result with
  | nil => exact ⟨result, rfl, fun _ => rfl⟩
  | cons entry rest ih =>
    obtain ⟨next, values, goes⟩ := putAll_cons_of_clean (clean entry List.mem_cons_self) result
    have later : ∀ entry ∈ rest, ¬ Offends entry := fun entry hm => clean entry (.tail _ hm)
    obtain ⟨loaded, ends, reached⟩ := ih later next
    refine ⟨loaded, (goes rest).trans ends, fun id => ?_⟩
    rw [reached id, values id, given]
    cases given id rest <;> rfl

theorem putAll_of_offends (offends : ∃ entry ∈ entries, Offends entry) :
    ∃ fault, FirstOffence entries fault ∧ ∀ result, putAll entries result = .error fault := by
  induction entries with
  | nil =>
    obtain ⟨_, hm, -⟩ := offends
    exact nomatch hm
  | cons entry rest ih =>
    by_cases first : Offends entry
    · obtain ⟨refusal, refused, ends⟩ := putAll_cons_of_offends first
      have named : FirstOffence (entry :: rest) (.setting entry.1 refusal) :=
        ⟨[], entry.1, entry.2, rest, refusal, rfl, (fun _ hm => nomatch hm), first, rfl, refused⟩
      exact ⟨_, named, ends rest⟩
    · have later : ∃ entry ∈ rest, Offends entry := by
        obtain ⟨other, hm, hf⟩ := offends
        obtain rfl | hm := List.mem_cons.mp hm
        · exact absurd hf first
        · exact ⟨other, hm, hf⟩
      obtain ⟨fault, ⟨before, name, value, after, refusal, split, clean, offence⟩, ends⟩ := ih later
      have clean : ∀ other ∈ entry :: before, ¬ Offends other := by
        intro other hm
        obtain rfl | hm := List.mem_cons.mp hm
        · exact first
        · exact clean other hm
      have named : FirstOffence (entry :: rest) fault :=
        ⟨entry :: before, name, value, after, refusal, by rw [split]; rfl, clean, offence⟩
      refine ⟨fault, named, fun result => ?_⟩
      obtain ⟨next, -, goes⟩ := putAll_cons_of_clean first result
      exact (goes rest).trans (ends next)

/-- Settings without an entry that offends are loaded, all of them. -/
theorem load_of_clean (clean : ∀ entry ∈ entries, ¬ Offends entry) :
    ∃ loaded, load entries = .ok loaded ∧
      ∀ id, loaded.1.valueOf id = (given id entries).getD (SettingKey.defined id).default :=
  putAll_of_clean clean ({}, 0)

theorem load_of_offends (offends : ∃ entry ∈ entries, Offends entry) :
    ∃ fault, FirstOffence entries fault ∧ load entries = .error fault := by
  obtain ⟨fault, first, ends⟩ := putAll_of_offends offends
  exact ⟨fault, first, ends _⟩

end Settings
end KeyPrecedence
