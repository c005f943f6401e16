import RadioRelay.Daemon
import RadioRelay.Proofs.Failing

/-!
# What a configuration is put together from

A file gives some settings, each at most once, and for all others there is a standard. So a
configuration that is read has, for each setting, what the file says or else the standard
(`Configuration.ofEntries?_eq_some_iff`). Which file it is, the calls that look for it tell
(`Configuration.runs_resolvePath_iff`), and reading it succeeds exactly if it is text, has entries
and these make a configuration (`Daemon.runs_loadOrStandard_iff`). The check of a configuration lets
through exactly what is within its limits.
-/

namespace RadioRelay

open Program Fallible

/-! ### The bytes of a text -/

theorem toList_loop (bytes : ByteArray) (index : Nat) (read : Bytes) :
    ByteArray.toList.loop bytes index read = read.reverse ++ bytes.data.toList.drop index := by
  fun_induction ByteArray.toList.loop bytes index read with
  | case1 index read inside ih =>
    have here : index < bytes.data.toList.length := inside
    rw [ih, List.drop_eq_getElem_cons here, List.reverse_cons, List.append_assoc]
    simp [ByteArray.get!, inside]
  | case2 index read outside =>
    have beyond : bytes.data.toList.length ≤ index := Nat.not_lt.mp outside
    rw [List.drop_eq_nil_of_le beyond, List.append_nil]

theorem toList_toUTF8 (name : String) : name.toUTF8.toList = name.toByteArray.data.toList :=
  toList_loop name.toByteArray 0 []

theorem length_toUTF8 (name : String) : name.toUTF8.toList.length = name.utf8ByteSize := by
  rw [toList_toUTF8]
  rfl

theorem Configuration.decodeText?_eq_some_iff {bytes : Bytes} {text : String} :
    decodeText? bytes = some text ↔ bytes = text.toUTF8.toList := by
  rw [toList_toUTF8]
  unfold decodeText? String.fromUTF8?
  constructor
  · intro decoded
    split at decoded
    · cases decoded
      rfl
    · cases decoded
  · rintro rfl
    rw [dif_pos text.isValidUTF8]
    rfl

/-! ### Settings -/

namespace Setting

/-- The key of a setting in a file. -/
def key : Setting → String
  | .socketName => "socket_name"
  | .familyName => "family_name"
  | .backlog => "backlog"
  | .maxClientMessage => "max_client_message"
  | .kernelBuffer => "kernel_buffer"
  | .logLevel => "log_level"

theorem ofKey?_eq_some_iff {text : String} {setting : Setting} :
    ofKey? text = some setting ↔ text = setting.key := by
  constructor
  · intro known
    unfold ofKey? at known
    split at known
    all_goals cases known
    all_goals rfl
  · rintro rfl
    cases setting <;> rfl

theorem key_inj {setting other : Setting} (same : setting.key = other.key) : setting = other := by
  have known : ofKey? setting.key = some other := ofKey?_eq_some_iff.mpr same
  rw [ofKey?_eq_some_iff.mpr rfl] at known
  exact Option.some.inj known

end Setting

namespace Configuration

/-- A configuration has the value that a scalar gives to a setting. -/
def Has (configuration : Configuration) (value : Yaml.Scalar) : Setting → Prop
  | .socketName => configuration.socketName = value.text
  | .familyName => configuration.familyName = value.text
  | .backlog => value.int32? = some configuration.backlog
  | .maxClientMessage => value.word64? = some configuration.maxClientMessage
  | .kernelBuffer => value.word64? = some configuration.kernelBuffer
  | .logLevel => configuration.logLevel = value.text

def AgreesOn (configuration other : Configuration) : Setting → Prop
  | .socketName => configuration.socketName = other.socketName
  | .familyName => configuration.familyName = other.familyName
  | .backlog => configuration.backlog = other.backlog
  | .maxClientMessage => configuration.maxClientMessage = other.maxClientMessage
  | .kernelBuffer => configuration.kernelBuffer = other.kernelBuffer
  | .logLevel => configuration.logLevel = other.logLevel

/-- A configuration has the standard value of a setting, on a system with pages of some size. -/
def HasStandard (configuration : Configuration) (pageSize : Int) : Setting → Prop
  | .socketName => configuration.socketName = "cvd-wifirouter"
  | .familyName => configuration.familyName = "MAC80211_HWSIM"
  | .backlog => configuration.backlog = 4
  | .maxClientMessage =>
    configuration.maxClientMessage = if pageSize ≤ 0 then 4096 else pageSize.toNat
  | .kernelBuffer => configuration.kernelBuffer = 16384
  | .logLevel => configuration.logLevel = "info"

/-- The entries of a file give every setting at most once, and nothing else. A configuration has the
values that they give, and the standard for what they do not give. -/
structure Merged (pageSize : Int) (entries : List Yaml.Entry) (configuration : Configuration) :
    Prop where
  known : ∀ entry ∈ entries, ∃ setting : Setting, entry.key.text = setting.key
  once : (entries.map (·.key.text)).Nodup
  given : ∀ entry ∈ entries, ∀ setting : Setting, entry.key.text = setting.key →
    configuration.Has entry.value setting
  standard : ∀ setting : Setting, (∀ entry ∈ entries, entry.key.text ≠ setting.key) →
    configuration.HasStandard pageSize setting

variable {configuration base next : Configuration} {value : Yaml.Scalar} {setting : Setting}
  {entries : List Yaml.Entry} {already : List Setting}

theorem AgreesOn.has (agrees : configuration.AgreesOn next setting) (has : next.Has value setting) :
    configuration.Has value setting := by
  cases setting <;> simp only [AgreesOn, Has] at agrees has ⊢ <;> rw [agrees, has]

theorem AgreesOn.trans {other : Configuration} (agrees : configuration.AgreesOn next setting)
    (later : next.AgreesOn other setting) : configuration.AgreesOn other setting := by
  cases setting <;> exact Eq.trans agrees later

theorem AgreesOn.symm (agrees : configuration.AgreesOn next setting) :
    next.AgreesOn configuration setting := by
  cases setting <;> exact Eq.symm agrees

theorem agreesOn_standard {pageSize : Int} :
    configuration.AgreesOn (Configuration.standard pageSize) setting
      ↔ configuration.HasStandard pageSize setting := by
  cases setting <;> exact Iff.rfl

/-- An entry sets its own setting and no other. -/
theorem agreesOn_of_assign (assigned : setting.assign? base value = some next) :
    next.Has value setting ∧ ∀ other ≠ setting, next.AgreesOn base other := by
  cases setting
  case socketName | familyName | logLevel =>
    cases assigned
    exact ⟨rfl, fun other isOther => by cases other <;> first | rfl | exact absurd rfl isOther⟩
  case backlog | maxClientMessage | kernelBuffer =>
    rcases Option.map_eq_some_iff.mp assigned with ⟨number, read, rfl⟩
    exact ⟨read, fun other isOther => by cases other <;> first | rfl | exact absurd rfl isOther⟩

theorem exists_assign (base : Configuration) (has : configuration.Has value setting) :
    ∃ next, setting.assign? base value = some next ∧ configuration.AgreesOn next setting := by
  cases setting
  case socketName | familyName | logLevel => exact ⟨_, rfl, has⟩
  case backlog | maxClientMessage | kernelBuffer =>
    exact ⟨_, Option.map_eq_some_iff.mpr ⟨_, has, rfl⟩, rfl⟩

/-- What comes of further entries, when some settings were already given. -/
structure MergedInto (already : List Setting) (base : Configuration) (entries : List Yaml.Entry)
    (configuration : Configuration) : Prop where
  known : ∀ entry ∈ entries, ∃ setting ∉ already, entry.key.text = setting.key
  once : (entries.map (·.key.text)).Nodup
  given : ∀ entry ∈ entries, ∀ setting : Setting, entry.key.text = setting.key →
    configuration.Has entry.value setting
  kept : ∀ setting : Setting, (∀ entry ∈ entries, entry.key.text ≠ setting.key) →
    configuration.AgreesOn base setting

theorem ofEntries?_cons_eq_some_iff {entry : Yaml.Entry} :
    ofEntries? already base (entry :: entries) = some configuration ↔
      ∃ setting ∉ already, entry.key.text = setting.key ∧ ∃ next,
        setting.assign? base entry.value = some next
          ∧ ofEntries? (setting :: already) next entries = some configuration := by
  simp only [ofEntries?]
  constructor
  · intro merged
    rcases Option.bind_eq_some_iff.mp merged with ⟨setting, known, merged⟩
    split at merged
    case isTrue => cases merged
    case isFalse new =>
      rcases Option.bind_eq_some_iff.mp merged with ⟨next, assigned, later⟩
      exact ⟨setting, new, Setting.ofKey?_eq_some_iff.mp known, next, assigned, later⟩
  · rintro ⟨setting, new, known, next, assigned, later⟩
    simp [Setting.ofKey?_eq_some_iff.mpr known, new, assigned, later]

theorem mergedInto_nil_iff : MergedInto already base [] configuration ↔ base = configuration := by
  constructor
  · intro merged
    have same := fun setting => merged.kept setting (by simp)
    rcases configuration with ⟨_, _, _, _, _, _⟩
    rcases base with ⟨_, _, _, _, _, _⟩
    cases same .socketName
    cases same .familyName
    cases same .backlog
    cases same .maxClientMessage
    cases same .kernelBuffer
    cases same .logLevel
    rfl
  · rintro rfl
    exact ⟨by simp, by simp, by simp, fun setting _ => by cases setting <;> rfl⟩

theorem MergedInto.cons {entry : Yaml.Entry} (new : setting ∉ already)
    (known : entry.key.text = setting.key) (assigned : setting.assign? base entry.value = some next)
    (merged : MergedInto (setting :: already) next entries configuration) :
    MergedInto already base (entry :: entries) configuration := by
  rcases agreesOn_of_assign assigned with ⟨has, kept⟩
  -- No later entry has the key, as the setting is now one of those already given.
  have only : ∀ other ∈ entries, other.key.text ≠ setting.key := by
    intro other otherMem same
    rcases merged.known other otherMem with ⟨another, fresh, its⟩
    rcases Setting.key_inj (same.symm.trans its) with rfl
    exact fresh (List.mem_cons_self ..)
  refine ⟨?_, ?_, ?_, ?_⟩
  · rw [List.forall_mem_cons]
    refine ⟨⟨setting, new, known⟩, ?_⟩
    intro other otherMem
    rcases merged.known other otherMem with ⟨another, fresh, its⟩
    exact ⟨another, fun old => fresh (List.mem_cons_of_mem _ old), its⟩
  · rw [List.map_cons, List.nodup_cons, List.mem_map]
    refine ⟨?_, merged.once⟩
    rintro ⟨other, otherMem, same⟩
    exact only other otherMem (same.trans known)
  · rw [List.forall_mem_cons]
    refine ⟨?_, merged.given⟩
    intro another its
    rcases Setting.key_inj (known.symm.trans its) with rfl
    exact (merged.kept setting only).has has
  · intro another absent
    rw [List.forall_mem_cons, known] at absent
    have isOther : another ≠ setting := by
      rintro rfl
      exact absent.1 rfl
    exact (merged.kept another absent.2).trans (kept another isOther)

theorem MergedInto.exists_of_cons {entry : Yaml.Entry}
    (merged : MergedInto already base (entry :: entries) configuration) :
    ∃ setting ∉ already, entry.key.text = setting.key ∧ ∃ next,
      setting.assign? base entry.value = some next
        ∧ MergedInto (setting :: already) next entries configuration := by
  rcases merged.known entry (List.mem_cons_self ..) with ⟨setting, new, known⟩
  have has := merged.given entry (List.mem_cons_self ..) setting known
  rcases exists_assign base has with ⟨next, assigned, agrees⟩
  have once := merged.once
  rw [List.map_cons, List.nodup_cons, List.mem_map] at once
  refine ⟨setting, new, known, next, assigned, ?_, once.2, ?_, ?_⟩
  · intro other otherMem
    rcases merged.known other (List.mem_cons_of_mem _ otherMem) with ⟨another, fresh, its⟩
    refine ⟨another, ?_, its⟩
    rw [List.mem_cons, not_or]
    refine ⟨?_, fresh⟩
    rintro rfl
    exact once.1 ⟨other, otherMem, its.trans known.symm⟩
  · exact fun other otherMem => merged.given other (List.mem_cons_of_mem _ otherMem)
  · intro another absent
    by_cases isOther : another = setting
    · exact isOther ▸ agrees
    have kept := (agreesOn_of_assign assigned).2 another isOther
    refine (merged.kept another ?_).trans kept.symm
    rw [List.forall_mem_cons]
    refine ⟨?_, absent⟩
    rw [known]
    exact fun same => isOther (Setting.key_inj same.symm)

theorem ofEntries?_iff_mergedInto :
    ofEntries? already base entries = some configuration
      ↔ MergedInto already base entries configuration := by
  induction entries generalizing already base with
  | nil => exact Option.some_inj.trans mergedInto_nil_iff.symm
  | cons entry entries ih =>
    rw [ofEntries?_cons_eq_some_iff]
    constructor
    · rintro ⟨setting, new, known, next, assigned, later⟩
      exact (ih.mp later).cons new known assigned
    · intro merged
      rcases merged.exists_of_cons with ⟨setting, new, known, next, assigned, later⟩
      exact ⟨setting, new, known, next, assigned, ih.mpr later⟩

/-- Entries make a configuration exactly if each is for a setting of its own and gives it a value,
and it is the one that has these values and otherwise the standard. -/
theorem ofEntries?_eq_some_iff {pageSize : Int} :
    ofEntries? [] (Configuration.standard pageSize) entries = some configuration
      ↔ Merged pageSize entries configuration := by
  rw [ofEntries?_iff_mergedInto]
  constructor
  · rintro ⟨known, once, given, kept⟩
    refine ⟨?_, once, given, fun setting absent => agreesOn_standard.mp (kept setting absent)⟩
    intro entry entryMem
    rcases known entry entryMem with ⟨setting, -, its⟩
    exact ⟨setting, its⟩
  · rintro ⟨known, once, given, standard⟩
    refine ⟨?_, once, given, fun setting absent => agreesOn_standard.mpr (standard setting absent)⟩
    intro entry entryMem
    rcases known entry entryMem with ⟨setting, its⟩
    exact ⟨setting, List.not_mem_nil, its⟩

/-! ### Limits -/

/-- All that a configuration is checked for. -/
structure WithinLimits (configuration : Configuration) : Prop where
  socketName : 0 < configuration.socketName.utf8ByteSize
    ∧ configuration.socketName.utf8ByteSize ≤ 106
  familyName : 0 < configuration.familyName.utf8ByteSize
  backlog : 0 < configuration.backlog
  clientBuffer : 20 ≤ configuration.maxClientMessage
  kernelBuffer : 20 ≤ configuration.kernelBuffer ∧ configuration.kernelBuffer ≤ 65531

theorem validate_eq_ok_iff : configuration.validate = .ok () ↔ configuration.WithinLimits := by
  have listed : configuration.WithinLimits ↔
      (0 < configuration.socketName.utf8ByteSize ∧ configuration.socketName.utf8ByteSize ≤ 106)
        ∧ 0 < configuration.familyName.utf8ByteSize ∧ 0 < configuration.backlog
        ∧ 20 ≤ configuration.maxClientMessage
        ∧ 20 ≤ configuration.kernelBuffer ∧ configuration.kernelBuffer ≤ 65531 :=
    ⟨fun ⟨name, family, backlog, client, kernel⟩ => ⟨name, family, backlog, client, kernel⟩,
      fun ⟨name, family, backlog, client, kernel⟩ => ⟨name, family, backlog, client, kernel⟩⟩
  have sizes : maxSocketName = 106 ∧ Message.minSize = 20 ∧ Attribute.maxPayload = 65531 :=
    ⟨rfl, rfl, rfl⟩
  rw [listed]
  unfold validate
  rw [sizes.1, sizes.2.1, sizes.2.2]
  split_ifs <;> simp only [false_iff, true_iff] <;> omega

/-! ### Where a configuration comes from -/

/-- The calls that look for a file, and the one that they find. A file that is asked for must be
there; otherwise one of two places will do, the first one first, or none. -/
inductive Located : Option String → Trace → Option String → Prop
  | named (path : String) : Located (some path) [⟨.fileExists path, true⟩] (some path)
  | here : Located none [⟨.fileExists "wifirouter.yml", true⟩] (some "wifirouter.yml")
  | system : Located none
      [⟨.fileExists "wifirouter.yml", false⟩, ⟨.fileExists "/etc/wifirouter.yml", true⟩]
      (some "/etc/wifirouter.yml")
  | nowhere : Located none
      [⟨.fileExists "wifirouter.yml", false⟩, ⟨.fileExists "/etc/wifirouter.yml", false⟩] none

/-- The calls that read a file, and the configuration that its entries make. Without a file it is
the standard one. -/
inductive Loaded : Option String → Trace → Configuration → Prop
  | standard {pageSize : Int} {configuration : Configuration}
      (merged : Merged pageSize [] configuration) :
      Loaded none [⟨.pageSize, pageSize⟩] configuration
  | file {path text : String} {entries : List Yaml.Entry} {pageSize : Int}
      {configuration : Configuration} (listed : Yaml.entries? text = some entries)
      (merged : Merged pageSize entries configuration) :
      Loaded (some path) [⟨.readFile path, .ok text.toUTF8.toList⟩, ⟨.pageSize, pageSize⟩]
        configuration

variable {config path : Option String} {trace : Trace}

theorem runs_resolvePath_iff :
    (resolvePath config).run.Runs trace (.ok path) ↔ Located config trace path := by
  constructor
  · intro runs
    cases config with
    | some named =>
      rcases Fallible.runs_bind_ok.mp runs with ⟨_, _, found, rfl, ⟨_, _, rfl, rfl, same⟩, later⟩
      cases same
      cases found with
      | true =>
        rcases later with ⟨rfl, same⟩
        cases same
        exact .named named
      | false => cases later.2
    | none =>
      rcases runs with ⟨here, rest, rfl, runs⟩
      cases here with
      | true =>
        rcases runs with ⟨rfl, same⟩
        cases same
        exact .here
      | false =>
        rcases runs with ⟨system, rest, rfl, runs⟩
        cases system with
        | true =>
          rcases runs with ⟨rfl, same⟩
          cases same
          exact .system
        | false =>
          rcases runs with ⟨rfl, same⟩
          cases same
          exact .nowhere
  · rintro (_ | _)
    · exact ⟨true, [], rfl, rfl, rfl⟩
    · exact ⟨true, [], rfl, rfl, rfl⟩
    · exact ⟨false, _, rfl, true, [], rfl, rfl, rfl⟩
    · exact ⟨false, _, rfl, false, [], rfl, rfl, rfl⟩

end Configuration

namespace Daemon

variable {path : Option String} {trace : Trace} {loaded : Configuration}

/-- The configuration that the bytes of a file stand for. -/
def interpreted (path : String) (bytes : Bytes) : Fallible Configuration :=
  match Configuration.decodeText? bytes with
  | none => throw ((Failure.of .notText).during (.readingConfig path))
  | some text => do
    match Configuration.ofText? (← Program.call .pageSize) text with
    | none => throw ((Failure.of .invalidYaml).during (.interpretingConfig path))
    | some configuration => return configuration

theorem loadOrStandard_eq (path : String) :
    loadOrStandard (some path)
      = attempting (.readingConfig path) (Program.call (.readFile path)) >>= interpreted path :=
  rfl

theorem runs_interpreted_iff {path : String} {bytes : Bytes} :
    (interpreted path bytes).run.Runs trace (.ok loaded) ↔
      ∃ text entries, ∃ pageSize : Int, bytes = text.toUTF8.toList
        ∧ Yaml.entries? text = some entries ∧ Configuration.Merged pageSize entries loaded
        ∧ trace = [⟨.pageSize, pageSize⟩] := by
  unfold interpreted
  constructor
  · intro runs
    split at runs
    next => cases runs.2
    next text decoded =>
      rcases Fallible.runs_bind_ok.mp runs with ⟨_, _, pageSize, rfl, ⟨_, _, rfl, rfl, same⟩, ends⟩
      cases same
      split at ends
      next => cases ends.2
      next configuration made =>
        rcases ends with ⟨rfl, same⟩
        cases same
        rcases Option.bind_eq_some_iff.mp made with ⟨entries, listed, made⟩
        exact ⟨text, entries, pageSize, Configuration.decodeText?_eq_some_iff.mp decoded, listed,
          Configuration.ofEntries?_eq_some_iff.mp made, rfl⟩
  · rintro ⟨text, entries, pageSize, decodes, listed, merged, rfl⟩
    have made : Configuration.ofText? pageSize text = some loaded :=
      Option.bind_eq_some_iff.mpr ⟨entries, listed, Configuration.ofEntries?_eq_some_iff.mpr merged⟩
    rw [Configuration.decodeText?_eq_some_iff.mpr decodes]
    refine Fallible.runs_bind_ok.mpr
      ⟨[⟨.pageSize, pageSize⟩], [], pageSize, rfl, ⟨pageSize, [], rfl, rfl, rfl⟩, ?_⟩
    simp only [made]
    exact ⟨rfl, rfl⟩

theorem runs_loadOrStandard_iff :
    (loadOrStandard path).run.Runs trace (.ok loaded) ↔ Configuration.Loaded path trace loaded := by
  constructor
  · intro runs
    cases path with
    | none =>
      rcases runs with ⟨pageSize, _, rfl, rfl, same⟩
      cases same
      exact .standard (Configuration.ofEntries?_eq_some_iff.mp rfl)
    | some path =>
      rcases Fallible.runs_bind_ok.mp runs with ⟨_, _, bytes, rfl, reads, interprets⟩
      rcases reads with ⟨_ | _, _, rfl, rfl, same⟩
      all_goals cases same
      rcases runs_interpreted_iff.mp interprets with
        ⟨text, entries, pageSize, rfl, listed, merged, rfl⟩
      exact .file listed merged
  · rintro (@⟨pageSize, _, merged⟩ | @⟨path, text, entries, pageSize, _, listed, merged⟩)
    · cases Configuration.ofEntries?_eq_some_iff.mpr merged
      exact ⟨pageSize, [], rfl, rfl, rfl⟩
    · rw [loadOrStandard_eq]
      refine Fallible.runs_bind_ok.mpr ⟨[_], _, text.toUTF8.toList, rfl, ⟨.ok _, [], rfl, rfl, rfl⟩,
        ?_⟩
      exact runs_interpreted_iff.mpr ⟨text, entries, pageSize, rfl, listed, merged, rfl⟩

end Daemon

end RadioRelay
