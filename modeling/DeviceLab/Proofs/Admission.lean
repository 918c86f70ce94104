import DeviceLab.Proofs.Checks
import DeviceLab.Proofs.Summing

/-! # Which configurations are accepted

Every error tells of something that no well-formed configuration has
(`Config.Fault.not_wellFormed`), so a configuration that is refused is not well formed, and one that
is accepted is (`Config.validate_grants`).  `Config.validate_spec` puts the two together: exactly
the well-formed configurations are accepted, and an error tells of a fault that is there. -/

namespace DeviceLab

namespace Config

variable {c : Config}

theorem Fault.not_wellFormed {e : ConfigError} (h : c.Fault e) : ¬c.WellFormed := by
  intro hvalid
  cases h with
  | noDevices hnone => exact hvalid.someDevice hnone
  | deviceName hmem hempty => exact hvalid.devices.named _ hmem hempty
  | duplicateDevice htwice => exact List.nodup_iff_sublist.1 hvalid.devices.names _ htwice
  | zeroPort hmem hzero =>
      have hport : 0 ∈ c.devices.flatMap DeviceSlot.portNumbers :=
        List.mem_flatMap.2 ⟨_, hmem, List.mem_map_of_mem (f := Prod.snd) hzero⟩
      exact hvalid.devices.ports 0 hport rfl
  | portConflict htwice =>
      have hports := htwice.map Prod.fst
      rw [claims, DeviceSlot.map_claims] at hports
      exact List.nodup_iff_sublist.1 hvalid.devices.portsDiffer _ hports
  | noSuites hnone => exact hvalid.someSuite hnone
  | duplicateSuite htwice => exact List.nodup_iff_sublist.1 hvalid.suites.nodup _ htwice
  | suite hmem hfault => exact hfault.not_inOrder (hvalid.suites.suites _ hmem)
  | tooManySuites hlt => exact Nat.not_le.2 hlt hvalid.enough
  | command hempty => exact hvalid.commands.command hempty
  | installCommand hempty => exact hvalid.commands.installCommand hempty
  | runScript hmem hempty => exact hvalid.commands.runScripts _ hmem hempty
  | timing hfault => exact hfault.not_wellFormed hvalid.timing
  | rule hmem hspec hfault => exact hfault.not_wellFormed (hvalid.rules _ hmem _ hspec)

theorem validate_ok_iff : c.validate = .ok () ↔ c.WellFormed :=
  c.validate_grants.ok_iff fun _ => Fault.not_wellFormed

/-- `c.validate` accepts exactly the configurations that are `WellFormed`, and the error `e` for
any other one tells of a `Fault` that `c` has. -/
theorem validate_spec (c : Config) :
    (c.validate = .ok () ↔ c.WellFormed) ∧
      ∀ e, c.validate = .error e → c.Fault e ∧ ¬c.WellFormed := by
  refine ⟨validate_ok_iff, fun e he => ?_⟩
  have hfault := c.validate_grants.of_error he
  exact ⟨hfault, hfault.not_wellFormed⟩

/-- The small lab with a second device whose last port is one of the first device. -/
def clash : Config :=
  { Sample.config with
    devices :=
      [⟨"a", 5554, 5556, 5557, 5558, 5559, none⟩, ⟨"b", 5564, 5566, 5567, 5568, 5557, none⟩] }

theorem validate_spec_clash :
    clash.validate = .error (.portConflict 5557 "a.agent_port2" "b.ssl_port") ∧
      clash.Fault (.portConflict 5557 "a.agent_port2" "b.ssl_port") ∧ ¬clash.WellFormed := by
  have herror : clash.validate = .error (.portConflict 5557 "a.agent_port2" "b.ssl_port") := by
    rfl
  exact ⟨herror, (validate_spec clash).2 _ herror⟩

end Config

end DeviceLab

/-! ## Other suites for a configuration

`Config.selectSuites` puts the given names in the place of the selected suites and checks what it
has then.  Nothing else of the configuration changes, so a valid one becomes valid again exactly
when the new names are in order (`Config.wellFormed_select_iff`), and an error is about them
(`Config.select_fault`).  The names stay also when they are refused: `Config.selectSuites_spec` says
what is left then, and that the former names are accepted again. -/

namespace DeviceLab

namespace Config

variable {c : Config} {names : List String} {name : String} {e : ConfigError}

/-- Names that can be selected: each is in order, and there is a device for each. -/
structure Selectable (c : Config) (names : List String) : Prop where
  someSuite : names ≠ []
  suites : c.SuitesInOrder names
  enough : names.length ≤ c.devices.length

/-- What an error tells about names that are to be selected. -/
inductive SelectionFault (c : Config) (names : List String) : ConfigError → Prop where
  | noSuites : names = [] → SelectionFault c names .noSuites
  | duplicateSuite {name : String} : [name, name].Sublist names →
      SelectionFault c names (.duplicateSuite name)
  | suite {name : String} {e : ConfigError} : name ∈ names → c.SuiteFault name e →
      SelectionFault c names e
  | tooManySuites : c.devices.length < names.length →
      SelectionFault c names (.tooManySuites names.length c.devices.length)

/-- The configuration with other names in the place of the selected ones. -/
def select (c : Config) (names : List String) : Config := { c with selected := names }

/-- Which names are selected does not matter to a suite. -/
theorem suitesInOrder_select {others : List String} :
    (c.select names).SuitesInOrder others ↔ c.SuitesInOrder others := by
  constructor
  all_goals
    rintro ⟨hnodup, hsuites⟩
    refine ⟨hnodup, fun name hname => ?_⟩
    obtain ⟨suite, hsuite, hvalid⟩ := hsuites name hname
    exact ⟨suite, hsuite, { hvalid with }⟩

theorem suiteFault_select (h : (c.select names).SuiteFault name e) : c.SuiteFault name e := by
  cases h with
  | unknown hnone => exact .unknown hnone
  | category hsuite hnone => exact .category hsuite hnone
  | package hsuite hmem hnone => exact .package hsuite hmem hnone
  | maxRuns hsuite hruns => exact .maxRuns hsuite hruns
  | limit hsuite hmem hneg => exact .limit hsuite hmem hneg

/-- A well-formed configuration stays so exactly with names that can be selected. -/
theorem wellFormed_select_iff (h : c.WellFormed) :
    (c.select names).WellFormed ↔ c.Selectable names := by
  constructor
  · intro hnew
    exact ⟨hnew.someSuite, suitesInOrder_select.1 hnew.suites, hnew.enough⟩
  · intro hnames
    exact { h with
      someSuite := hnames.someSuite
      suites := suitesInOrder_select.2 hnames.suites
      enough := hnames.enough
      commands := { h.commands with } }

/-- A fault that comes with other names is one of the names. -/
theorem select_fault (h : c.WellFormed) (hfault : (c.select names).Fault e) :
    c.SelectionFault names e := by
  have hold {f : ConfigError} (hf : c.Fault f) : c.SelectionFault names e :=
    (hf.not_wellFormed h).elim
  cases hfault with
  | noSuites hnone => exact .noSuites hnone
  | duplicateSuite htwice => exact .duplicateSuite htwice
  | suite hmem hsuite => exact .suite hmem (suiteFault_select hsuite)
  | tooManySuites hless => exact .tooManySuites hless
  | noDevices hnone => exact hold (.noDevices hnone)
  | deviceName hmem hempty => exact hold (.deviceName hmem hempty)
  | duplicateDevice htwice => exact hold (.duplicateDevice htwice)
  | zeroPort hmem hzero => exact hold (.zeroPort hmem hzero)
  | portConflict htwice => exact hold (.portConflict htwice)
  | command hempty => exact hold (.command hempty)
  | installCommand hempty => exact hold (.installCommand hempty)
  | runScript hmem hempty => exact hold (.runScript hmem hempty)
  | timing hvalue => exact hold (.timing hvalue)
  | rule hmem hspec hrule => exact hold (.rule hmem hspec hrule)

/-- `selectSuites names` changes the selected names of a valid configuration and nothing else.  It
succeeds exactly if `names` are `Selectable`, and the configuration is valid then.  Otherwise the
error is a `SelectionFault` of `names`, which stay all the same: what is left is another
configuration, for which `validate` gives that error until other names are selected, such as
`c.selected`. -/
theorem selectSuites_spec (h : c.validate = .ok ()) (names : List String) :
    (c.selectSuites names).1 = { c with selected := names } ∧
      ((c.selectSuites names).2 = .ok () ↔ c.Selectable names) ∧
      ((c.selectSuites names).2 = .ok () → (c.selectSuites names).1.validate = .ok ()) ∧
      (∀ e, (c.selectSuites names).2 = .error e → c.SelectionFault names e ∧
        (c.selectSuites names).1.validate = .error e ∧ (c.selectSuites names).1 ≠ c ∧
        names ≠ c.selected ∧ (c.selectSuites names).1.selectSuites c.selected = (c, .ok ())) ∧
      ∀ later, (c.selectSuites names).1.selectSuites later = c.selectSuites later := by
  have hvalid : c.WellFormed := validate_ok_iff.1 h
  have hleft : c.selectSuites names = (c.select names, (c.select names).validate) := by rfl
  have hagain : (c.select names).selectSuites c.selected = (c, c.validate) := by rfl
  rw [hleft]
  refine ⟨rfl, validate_ok_iff.trans (wellFormed_select_iff hvalid), id, ?_, fun later => rfl⟩
  intro e he
  obtain ⟨hfault, -⟩ := (c.select names).validate_spec.2 e he
  -- what is refused is not what was accepted
  have hother : c.select names ≠ c := by
    intro hsame
    rw [hsame, h] at he
    cases he
  refine ⟨select_fault hvalid hfault, he, hother, ?_, ?_⟩
  · rintro rfl
    exact hother rfl
  · rw [hagain, h]

theorem selectSuites_refused : Sample.config.validate = .ok () ∧
    Sample.config.SelectionFault ["unit", "unit"] (.duplicateSuite "unit") ∧
    (Sample.config.selectSuites ["unit", "unit"]).1.selectSuites ["unit"] =
      (Sample.config, .ok ()) := by
  have hvalid : Sample.config.validate = .ok () := (Sample.setup_config Sample.planned).2
  obtain ⟨-, -, -, hrefused, -⟩ := selectSuites_spec hvalid ["unit", "unit"]
  obtain ⟨hfault, -, -, -, hagain⟩ := hrefused (.duplicateSuite "unit") rfl
  exact ⟨hvalid, hfault, hagain⟩

/-- Names that are refused are not undone: a valid configuration is left with the name of a suite
that there is not. -/
theorem selectSuites_keeps_names : Sample.config.validate = .ok () ∧
    (Sample.config.selectSuites ["missing"]).2 = .error (.unknownSuite "missing") ∧
    (Sample.config.selectSuites ["missing"]).1 ≠ Sample.config ∧
    (Sample.config.selectSuites ["missing"]).1.selected = ["missing"] ∧
    (Sample.config.selectSuites ["missing"]).1.validate ≠ .ok () := by
  have hvalid : Sample.config.validate = .ok () := (Sample.setup_config Sample.planned).2
  refine ⟨hvalid, rfl, ?_, rfl, ?_⟩
  · intro hsame
    have hnames : ["missing"] = ["unit"] := congrArg Config.selected hsame
    revert hnames
    decide
  · intro hok
    cases hok

end Config

end DeviceLab
