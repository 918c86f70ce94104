import DeviceLab.Proofs.Checks
import DeviceLab.Proofs.Entries
import DeviceLab.Proofs.Devices

/-! # What is installed on which device

Every device gets the artifact first.  Only after that it gets the packages that its suite requires
and those for all devices, in the order of the table, up to the first required one that fails.  So
the installations on a device follow from their own results alone.

* `Config.wanted`: the packages that the device of a suite is to get.
* `Delivery`: the installations on one device; `Obstructed`, `Spared`: whether they keep its suite
  from running, and whether one failed without doing so.
* `Delivered`: the installations on a row of devices, with the tally that is kept of them.
* `installArtifacts_serves`: the phase makes such installations, and its outcome tells what has
  become of them. -/

namespace DeviceLab

namespace Config

/-- The packages that a suite cannot do without. -/
def requiredBy (c : Config) (suite : String) : List String :=
  ((c.suite? suite).map SuiteSpec.requires).getD []

/-- The names of the packages in a table that are required or meant for all devices. -/
def wantedAmong (required : List String) (packages : List (String × Package)) : List String :=
  (packages.filter fun entry => required.contains entry.1 || entry.2.always).map Prod.fst

theorem wantedAmong_cons (required : List String) (name : String) (package : Package)
    (rest : List (String × Package)) : wantedAmong required ((name, package) :: rest) =
      if required.contains name || package.always then name :: wantedAmong required rest
      else wantedAmong required rest := by
  rw [wantedAmong, List.filter_cons]
  split <;> rfl

/-- The names of the packages that the device of a suite gets besides the artifact. -/
def wanted (c : Config) (suite : String) : List String :=
  wantedAmong (c.requiredBy suite) c.packages

end Config

/-- The installations on a device. -/
def installsOn (index : Nat) (calls : List BackendCall) : List BackendCall :=
  calls.filter fun call => call.kind = .install ∧ call.index = index

theorem installsOn_append (index : Nat) (calls more : List BackendCall) :
    installsOn index (calls ++ more) = installsOn index calls ++ installsOn index more :=
  List.filter_append ..

theorem installsOn_self {index : Nat} {calls : List BackendCall}
    (h : ∀ call ∈ calls, call.kind = .install ∧ call.index = index) :
    installsOn index calls = calls :=
  List.filter_eq_self.2 fun call hcall => decide_eq_true (h call hcall)

theorem installsOn_others {index : Nat} {calls : List BackendCall}
    (h : ∀ call ∈ calls, ¬(call.kind = .install ∧ call.index = index)) :
    installsOn index calls = [] :=
  List.filter_eq_nil_iff.2 fun call hcall hplace => h call hcall (of_decide_eq_true hplace)

/-- The installation of a required package that has failed. -/
def BackendCall.Vital (required : List String) (call : BackendCall) : Prop :=
  call.result ≠ .done ∧ ∃ name ∈ required, call.package = some name

instance (required : List String) (call : BackendCall) : Decidable (call.Vital required) :=
  inferInstanceAs (Decidable (_ ∧ ∃ name ∈ required, call.package = some name))

/-- The installations of some packages in their order, up to the first required one that fails. -/
inductive UpToVital (required : List String) : List String → List BackendCall → Prop
  | nil : UpToVital required [] []
  | stop {name : String} {names : List String} {call : BackendCall}
      (package : call.package = some name) (vital : call.Vital required) :
      UpToVital required (name :: names) [call]
  | next {name : String} {names : List String} {call : BackendCall} {calls : List BackendCall}
      (package : call.package = some name) (harmless : ¬call.Vital required)
      (rest : UpToVital required names calls) : UpToVital required (name :: names) (call :: calls)

/-- The installations on the device of a suite: the artifact, and only if that has succeeded the
packages. -/
inductive Delivery (c : Config) (suite : String) : List BackendCall → Prop
  | withoutArtifact {artifact : BackendCall} (package : artifact.package = some Run.mainPackage)
      (failed : artifact.result ≠ .done) : Delivery c suite [artifact]
  | withArtifact {artifact : BackendCall} {calls : List BackendCall}
      (package : artifact.package = some Run.mainPackage) (done : artifact.result = .done)
      (packages : UpToVital (c.requiredBy suite) (c.wanted suite) calls) :
      Delivery c suite (artifact :: calls)

/-- The installation of a required package has failed. -/
def VitalIn (required : List String) (calls : List BackendCall) : Prop :=
  ∃ call ∈ calls, call.Vital required

/-- The installation of a package has failed that is not required. -/
def HarmlessIn (required : List String) (calls : List BackendCall) : Prop :=
  ∃ call ∈ calls, call.result ≠ .done ∧ ¬call.Vital required

/-- Some installations on a device keep its suite from running: that of the artifact has failed, or
that of a required package. -/
def Obstructed (required : List String) : List BackendCall → Prop
  | [] => False
  | artifact :: calls => artifact.result ≠ .done ∨ VitalIn required calls

/-- Among the installations on a device is one that has failed and was not required. -/
def Spared (required : List String) : List BackendCall → Prop
  | [] => False
  | _ :: calls => HarmlessIn required calls

theorem vitalIn_cons {required : List String} {call : BackendCall} {calls : List BackendCall} :
    VitalIn required (call :: calls) ↔ call.Vital required ∨ VitalIn required calls := by
  simp only [VitalIn, List.mem_cons, exists_eq_or_imp]

theorem harmlessIn_cons {required : List String} {call : BackendCall} {calls : List BackendCall} :
    HarmlessIn required (call :: calls) ↔
      (call.result ≠ .done ∧ ¬call.Vital required) ∨ HarmlessIn required calls := by
  simp only [HarmlessIn, List.mem_cons, exists_eq_or_imp]

/-! ### The order of the table -/

/-- The packages of a configuration that is read are in the order of their names. -/
theorem Config.decode_ordered {c : Config} {d : Json.Document} (h : Config.decode d = .ok c) :
    Json.Ordered c.packages := by
  open Json.Record in
  refine Yields.decoder (P := fun c : Config => Json.Ordered c.packages)
    (.skip (.skip (.seq (P := Json.Ordered) (.skip (.skip (.skip (.skip (.skip (.first ?_))))))
      (.withDefault (fun _ _ => Json.dictionary_ordered) Json.ordered_nil)))) h
  intro _ _ _ _ _ _ packages hpackages _ _
  exact hpackages

/-- The packages of a device are in the order of their names. -/
theorem Config.wanted_ordered {c : Config} (h : Json.Ordered c.packages) (suite : String) :
    (c.wanted suite).Pairwise (· < ·) :=
  List.Pairwise.sublist (List.filter_sublist.map Prod.fst) h

/-- The suite of an accepted configuration gets what it requires and what all devices get. -/
theorem Config.mem_wanted {c : Config} (hv : c.validate = .ok ()) {suite name : String}
    (hsuite : suite ∈ c.selected) : name ∈ c.wanted suite ↔ name ∈ c.requiredBy suite ∨
      ∃ package, (name, package) ∈ c.packages ∧ package.always = true := by
  have hinTable : name ∈ c.requiredBy suite → ∃ package, (name, package) ∈ c.packages := by
    intro hname
    obtain ⟨spec, hspec, horder⟩ := (c.validate_grants.of_ok hv).suites.suites suite hsuite
    rw [Config.requiredBy, hspec] at hname
    obtain ⟨package, hpackage⟩ := horder.packages name hname
    obtain ⟨entry, hentry, hkey⟩ := List.mem_map.1 (Json.mem_keys_of_lookup hpackage)
    exact ⟨entry.2, hkey ▸ hentry⟩
  simp only [Config.wanted, Config.wantedAmong, List.mem_map, List.mem_filter, Bool.or_eq_true,
    List.contains_iff_mem]
  constructor
  · rintro ⟨⟨_, package⟩, ⟨hentry, hrequired | halways⟩, rfl⟩
    · exact .inl hrequired
    · exact .inr ⟨package, hentry, halways⟩
  · rintro (hrequired | ⟨package, hentry, halways⟩)
    · obtain ⟨package, hentry⟩ := hinTable hrequired
      exact ⟨(name, package), ⟨hentry, .inl hrequired⟩, rfl⟩
    · exact ⟨(name, package), ⟨hentry, .inr halways⟩, rfl⟩

namespace Run

variable {σ β : Type} {s : Setup σ β} {c : Config} {suite : String} {index : Nat}

/-! ### One device -/

/-- So many calls have been made and nothing else has changed about the devices. -/
structure Asked (calls : List BackendCall) (before after : Run σ β) : Prop where
  calls : after.calls = before.calls ++ calls
  devices : after.devices.length = before.devices.length

theorem Asked.refl (r : Run σ β) : Asked [] r r := ⟨(List.append_nil _).symm, rfl⟩

theorem Asked.trans {first second : List BackendCall} {r r' r'' : Run σ β} (h : Asked first r r')
    (h' : Asked second r' r'') : Asked (first ++ second) r r'' :=
  ⟨by rw [h'.calls, h.calls, List.append_assoc], h'.devices.trans h.devices⟩

/-- An installation on a device that there is makes one call. -/
theorem installOne_asks {package path : String} (r : Run σ β) (hlt : index < r.devices.length) :
    Leads (· = r) (installOne s index package path) fun e r' => ∃ call,
      (call.kind = .install ∧ call.index = index) ∧ call.package = some package ∧
        (call.result = .done ↔ e = none) ∧ Asked [call] r r' := by
  refine .bind (Q := fun result r' => ∃ a device, result = some a ∧ Asked
    [⟨.install, index, device, some package, .ofInstall a⟩] r r') (.modifyGet fun r' h => ?_)
    fun result => .of_eq fun r' h => ?_
  · subst h
    simp only [List.getElem?_eq_getElem hlt]
    exact ⟨_, _, rfl, calls_push (m := .called _) rfl, List.length_set⟩
  · obtain ⟨a, device, rfl, hasked⟩ := h
    cases a with
    | ok _ =>
        refine .pure fun r'' h => ⟨_, ⟨rfl, rfl⟩, rfl, ?_, h ▸ hasked⟩
        exact iff_of_true rfl rfl
    | error e =>
        refine .pure fun r'' h => ⟨_, ⟨rfl, rfl⟩, rfl, ?_, h ▸ hasked⟩
        exact iff_of_false CallResult.noConfusion (Option.some_ne_none e)

/-- The device of an index is blocked. -/
def InstallTally.Blocks (t : InstallTally) (index : Nat) : Prop := index ∈ t.blocked.map Prod.fst

/-- What some installations on a device have made of the tally: the device is blocked by a failure,
and another failure is counted. -/
structure Charged (index : Nat) (blocks counts : Prop) (before after : InstallTally) : Prop where
  blocked : ∀ i, after.Blocks i ↔ before.Blocks i ∨ i = index ∧ blocks
  optional : 0 < after.optional ↔ 0 < before.optional ∨ counts

theorem Charged.none {tally : InstallTally} {blocks counts : Prop} (hblocks : ¬blocks)
    (hcounts : ¬counts) : Charged index blocks counts tally tally := by
  refine ⟨fun i => ?_, ?_⟩
  · rw [or_iff_left fun h => hblocks h.2]
  · rw [or_iff_left hcounts]

theorem Charged.block {tally : InstallTally} {reason : String} {blocks counts : Prop}
    (hblocks : blocks) (hcounts : ¬counts) : Charged index blocks counts tally
      { tally with blocked := tally.blocked ++ [(index, reason)] } := by
  refine ⟨fun i => ?_, ?_⟩
  · simp only [InstallTally.Blocks, List.map_append, List.mem_append, List.map_cons, List.map_nil,
      List.mem_singleton, hblocks, and_true]
  · rw [or_iff_left hcounts]

theorem Charged.congr {blocks counts blocks' counts' : Prop} {before after : InstallTally}
    (h : Charged index blocks counts before after) (hblocks : blocks' ↔ blocks)
    (hcounts : counts' ↔ counts) : Charged index blocks' counts' before after := by
  rwa [propext hblocks, propext hcounts]

/-- The packages of a device, by induction on the table. -/
theorem installRest_delivers (required : List String) (packages : List (String × Package))
    (tally : InstallTally) (r : Run σ β) (hlt : index < r.devices.length) :
    Leads (· = r) (installRest s index required tally packages) fun t r' => ∃ calls,
      (∀ call ∈ calls, call.kind = .install ∧ call.index = index) ∧
        UpToVital required (Config.wantedAmong required packages) calls ∧
        Charged index (VitalIn required calls) (HarmlessIn required calls) tally t ∧
        Asked calls r r' := by
  induction packages generalizing tally r with
  | nil =>
      refine .pure fun r' h => ?_
      subst h
      refine ⟨[], fun _ hc => absurd hc List.not_mem_nil, .nil, .none ?_ ?_, .refl r'⟩
      · rintro ⟨call, hcall, -⟩
        exact List.not_mem_nil hcall
      · rintro ⟨call, hcall, -⟩
        exact List.not_mem_nil hcall
  | cons entry rest ih =>
      obtain ⟨name, package⟩ := entry
      refine .ite (fun hwanted => ?_) fun hunwanted => ?_
      · rw [Config.wantedAmong_cons, if_pos hwanted]
        refine .bind (installOne_asks r hlt) fun e => .of_eq fun r₁ h₁ => ?_
        obtain ⟨call, hplace, hpackage, hresult, hasked⟩ := h₁
        have hlt₁ : index < r₁.devices.length := hasked.devices ▸ hlt
        cases e with
        | none =>
            have hdone : call.result = .done := hresult.2 rfl
            have hharmless : ¬call.Vital required := fun h => h.1 hdone
            refine (ih tally r₁ hlt₁).weaken fun t r' h => ?_
            obtain ⟨calls, hcalls, hrow, hcharged, hmore⟩ := h
            refine ⟨call :: calls, List.forall_mem_cons.2 ⟨hplace, hcalls⟩,
              .next hpackage hharmless hrow, hcharged.congr ?_ ?_, hasked.trans hmore⟩
            · rw [vitalIn_cons, or_iff_right hharmless]
            · rw [harmlessIn_cons, or_iff_right fun h => h.1 hdone]
        | some e =>
            have hfailed : call.result ≠ .done := fun h => Option.some_ne_none e (hresult.1 h)
            refine .ite (fun hrequired => ?_) fun hrequired => ?_
            · have hvital : call.Vital required :=
                ⟨hfailed, name, List.contains_iff_mem.1 hrequired, hpackage⟩
              refine .pure fun r' h => ?_
              subst h
              refine ⟨[call], List.forall_mem_cons.2 ⟨hplace, fun _ h => absurd h List.not_mem_nil⟩,
                .stop hpackage hvital, .block (vitalIn_cons.2 (.inl hvital)) ?_, hasked⟩
              rintro ⟨call', hcall', -, hharmless⟩
              rw [List.mem_singleton.1 hcall'] at hharmless
              exact hharmless hvital
            · have hharmless : ¬call.Vital required := by
                rintro ⟨-, name', hname', hpackage'⟩
                rw [hpackage, Option.some.injEq] at hpackage'
                exact hrequired (List.contains_iff_mem.2 (hpackage' ▸ hname'))
              refine (ih _ r₁ hlt₁).weaken fun t r' h => ?_
              obtain ⟨calls, hcalls, hrow, hcharged, hmore⟩ := h
              refine ⟨call :: calls, List.forall_mem_cons.2 ⟨hplace, hcalls⟩,
                .next hpackage hharmless hrow, ⟨fun i => ?_, ?_⟩, hasked.trans hmore⟩
              · rw [vitalIn_cons, or_iff_right hharmless]
                exact hcharged.blocked i
              · have hcounted : 0 < t.optional := hcharged.optional.2 (.inl (Nat.succ_pos _))
                exact iff_of_true hcounted (.inr (harmlessIn_cons.2 (.inl ⟨hfailed, hharmless⟩)))
      · rw [Config.wantedAmong_cons, if_neg hunwanted]
        exact ih tally r hlt

/-- Everything that a device is to have. -/
theorem installOn_delivers (suite : String) (tally : InstallTally) (r : Run σ β)
    (hlt : index < r.devices.length) :
    Leads (· = r) (installOn s index suite tally) fun t r' => ∃ calls,
      (∀ call ∈ calls, call.kind = .install ∧ call.index = index) ∧
        Delivery s.plan.config suite calls ∧
        Charged index (Obstructed (s.plan.config.requiredBy suite) calls)
          (Spared (s.plan.config.requiredBy suite) calls) tally t ∧
        Asked calls r r' := by
  refine .bind (Q := fun run r' => run = r ∧ r' = r) (.get fun _ h => ⟨h, h⟩) fun run =>
    .of_eq fun r' h => ?_
  obtain ⟨rfl, rfl⟩ := h
  refine .ite (fun hnone => absurd hlt (Nat.not_lt_of_le hnone)) fun _ => ?_
  refine .bind (installOne_asks r' hlt) fun e => .of_eq fun r₁ h₁ => ?_
  obtain ⟨artifact, hplace, hpackage, hresult, hasked⟩ := h₁
  cases e with
  | some e =>
      have hfailed : artifact.result ≠ .done := fun h => Option.some_ne_none e (hresult.1 h)
      refine .pure fun r'' h => ?_
      subst h
      refine ⟨[artifact], List.forall_mem_cons.2 ⟨hplace, fun _ h => absurd h List.not_mem_nil⟩,
        .withoutArtifact hpackage hfailed, .block (.inl hfailed) ?_, hasked⟩
      rintro ⟨call, hcall, -⟩
      exact List.not_mem_nil hcall
  | none =>
      have hdone : artifact.result = .done := hresult.2 rfl
      refine (installRest_delivers (s.plan.config.requiredBy suite) s.plan.config.packages tally r₁
        (hasked.devices ▸ hlt)).weaken fun t r'' h => ?_
      obtain ⟨calls, hcalls, hrow, hcharged, hmore⟩ := h
      refine ⟨artifact :: calls, List.forall_mem_cons.2 ⟨hplace, hcalls⟩,
        .withArtifact hpackage hdone hrow, hcharged.congr ?_ Iff.rfl, hasked.trans hmore⟩
      exact or_iff_right fun h => h hdone

/-! ### A row of devices -/

/-- What the installations on the devices of a row of suites are, and what they have made of the
tally. -/
structure Delivered (c : Config) (first : Nat) (suites : List String) (before after : InstallTally)
    (calls : List BackendCall) : Prop where
  place : ∀ call ∈ calls,
    call.kind = .install ∧ first ≤ call.index ∧ call.index < first + suites.length
  row : ∀ k suite, suites[k]? = some suite → Delivery c suite (installsOn (first + k) calls)
  blocked : ∀ i, after.Blocks i ↔ before.Blocks i ∨ ∃ k suite, suites[k]? = some suite ∧
    i = first + k ∧ Obstructed (c.requiredBy suite) (installsOn i calls)
  optional : 0 < after.optional ↔ 0 < before.optional ∨ ∃ k suite, suites[k]? = some suite ∧
    Spared (c.requiredBy suite) (installsOn (first + k) calls)

theorem Delivered.nil (c : Config) (first : Nat) (tally : InstallTally) :
    Delivered c first [] tally tally [] where
  place _ h := absurd h List.not_mem_nil
  row k suite h := by
    rw [List.getElem?_nil] at h
    cases h
  blocked i := by
    refine ⟨.inl, fun h => h.resolve_right ?_⟩
    rintro ⟨k, suite, h, -⟩
    rw [List.getElem?_nil] at h
    cases h
  optional := by
    refine ⟨.inl, fun h => h.resolve_right ?_⟩
    rintro ⟨k, suite, h, -⟩
    rw [List.getElem?_nil] at h
    cases h

/-- An entry of a list is the first one or comes later. -/
theorem exists_getElem?_cons {α : Type} {a : α} {l : List α} {P : Nat → α → Prop} :
    (∃ k b, (a :: l)[k]? = some b ∧ P k b) ↔ P 0 a ∨ ∃ k b, l[k]? = some b ∧ P (k + 1) b := by
  constructor
  · rintro ⟨k, b, hk, h⟩
    cases k with
    | zero =>
        rw [List.getElem?_cons_zero, Option.some.injEq] at hk
        exact .inl (hk ▸ h)
    | succ k => exact .inr ⟨k, b, hk, h⟩
  · rintro (h | ⟨k, b, hk, h⟩)
    · exact ⟨0, a, rfl, h⟩
    · exact ⟨k + 1, b, hk, h⟩

/-- One more device in front. -/
theorem Delivered.cons {first : Nat} {suites : List String} {before between after : InstallTally}
    {calls more : List BackendCall}
    (hplace : ∀ call ∈ calls, call.kind = .install ∧ call.index = first)
    (hrow : Delivery c suite calls)
    (hcharged : Charged first (Obstructed (c.requiredBy suite) calls)
      (Spared (c.requiredBy suite) calls) before between)
    (hrest : Delivered c (first + 1) suites between after more) :
    Delivered c first (suite :: suites) before after (calls ++ more) := by
  have hfirst : installsOn first (calls ++ more) = calls := by
    rw [installsOn_append, installsOn_self hplace, installsOn_others, List.append_nil]
    intro call hcall h
    have hlater := (hrest.place call hcall).2.1
    omega
  have hlater : ∀ i, first < i → installsOn i (calls ++ more) = installsOn i more := by
    intro i hi
    rw [installsOn_append, installsOn_others, List.nil_append]
    intro call hcall h
    have hhere := (hplace call hcall).2
    omega
  have hshift : ∀ k, first + 1 + k = first + (k + 1) := by omega
  refine ⟨fun call hcall => ?_, fun k suite' hk => ?_, fun i => ?_, ?_⟩
  · rw [List.length_cons]
    rcases List.mem_append.1 hcall with hcall | hcall
    · obtain ⟨hkind, hindex⟩ := hplace call hcall
      exact ⟨hkind, by omega, by omega⟩
    · obtain ⟨hkind, hlow, hhigh⟩ := hrest.place call hcall
      exact ⟨hkind, by omega, by omega⟩
  · cases k with
    | zero =>
        rw [List.getElem?_cons_zero, Option.some.injEq] at hk
        rw [Nat.add_zero, hfirst, ← hk]
        exact hrow
    | succ k =>
        rw [List.getElem?_cons_succ] at hk
        rw [hlater _ (by omega), ← hshift]
        exact hrest.row k suite' hk
  · rw [hrest.blocked, hcharged.blocked, or_assoc, exists_getElem?_cons]
    refine or_congr_right (or_congr ?_ (exists_congr fun k => exists_congr fun suite' =>
      and_congr_right fun _ => ?_))
    · exact and_congr_right fun hi => by rw [hi, hfirst]
    · rw [hshift]
      exact and_congr_right fun hi => by rw [hlater i (by omega)]
  · rw [hrest.optional, hcharged.optional, or_assoc, exists_getElem?_cons, Nat.add_zero first,
      hfirst]
    refine or_congr_right (or_congr_right (exists_congr fun k => exists_congr fun suite' =>
      and_congr_right fun _ => ?_))
    rw [hshift, hlater _ (by omega)]

/-- All devices of a row get what they are to have, by induction on the row. -/
theorem installFrom_delivers (suites : List String) (first : Nat) (tally : InstallTally)
    (r : Run σ β) (hlt : first + suites.length ≤ r.devices.length) :
    Leads (· = r) (installFrom s first tally suites) fun t r' => ∃ calls,
      Delivered s.plan.config first suites tally t calls ∧ Asked calls r r' := by
  induction suites generalizing first tally r with
  | nil =>
      refine .pure fun r' h => ?_
      subst h
      exact ⟨[], .nil _ first tally, .refl r'⟩
  | cons suite suites ih =>
      rw [List.length_cons] at hlt
      refine .bind (installOn_delivers suite tally r (by omega)) fun between =>
        .of_eq fun r₁ h₁ => ?_
      obtain ⟨calls, hplace, hrow, hcharged, hasked⟩ := h₁
      have hlength := hasked.devices
      refine (ih (first + 1) between r₁ (by omega)).weaken fun t r' h => ?_
      obtain ⟨more, hdelivered, hmore⟩ := h
      exact ⟨calls ++ more, .cons hplace hrow hcharged hdelivered, hasked.trans hmore⟩

/-! ### The phase -/

theorem InstallTally.outcome_phase (t : InstallTally) : t.outcome.phase = .artifactInstalling := by
  obtain ⟨blocked, optional⟩ := t
  cases blocked with
  | cons entry rest => rfl
  | nil => cases optional <;> rfl

/-- The outcome tells whether a device is blocked, and otherwise whether a failure was counted. -/
theorem InstallTally.outcome_severity (t : InstallTally) :
    (t.outcome.severity = .fatal ↔ ∃ i, t.Blocks i) ∧
      (t.outcome.severity = .warning ↔ (¬∃ i, t.Blocks i) ∧ 0 < t.optional) ∧
      (t.outcome.severity = .success ↔ (¬∃ i, t.Blocks i) ∧ ¬0 < t.optional) := by
  obtain ⟨blocked, optional⟩ := t
  cases blocked with
  | cons entry rest =>
      have hseverity : (InstallTally.outcome ⟨entry :: rest, optional⟩).severity = .fatal := rfl
      have hblocks : ∃ i, InstallTally.Blocks ⟨entry :: rest, optional⟩ i :=
        ⟨entry.1, List.mem_cons_self⟩
      simp [hseverity, hblocks]
  | nil =>
      have hblocks : ¬∃ i, InstallTally.Blocks ⟨[], optional⟩ i := by
        rintro ⟨i, hi⟩
        exact List.not_mem_nil hi
      cases optional with
      | zero =>
          have hseverity : (InstallTally.outcome ⟨[], 0⟩).severity = .success := rfl
          simp [hseverity, hblocks]
      | succ n =>
          have hseverity : (InstallTally.outcome ⟨[], n + 1⟩).severity = .warning := rfl
          simp [hseverity, hblocks]

/-- What has been installed for the selected suites, which devices are blocked, and the outcome of
the phase. -/
structure Served (c : Config) (calls : List BackendCall) (blocked : List Nat)
    (outcome : PhaseOutcome) : Prop where
  delivery : ∀ i suite, c.selected[i]? = some suite → Delivery c suite (installsOn i calls)
  blocked : ∀ i, i ∈ blocked ↔ ∃ suite, c.selected[i]? = some suite ∧
    Obstructed (c.requiredBy suite) (installsOn i calls)
  phase : outcome.phase = .artifactInstalling
  fatal : outcome.severity = .fatal ↔ ∃ i suite, c.selected[i]? = some suite ∧
    Obstructed (c.requiredBy suite) (installsOn i calls)
  warning : outcome.severity = .warning ↔
    (¬∃ i suite, c.selected[i]? = some suite ∧
      Obstructed (c.requiredBy suite) (installsOn i calls)) ∧
    ∃ i suite, c.selected[i]? = some suite ∧ Spared (c.requiredBy suite) (installsOn i calls)
  success : outcome.severity = .success ↔
    (¬∃ i suite, c.selected[i]? = some suite ∧
      Obstructed (c.requiredBy suite) (installsOn i calls)) ∧
    ¬∃ i suite, c.selected[i]? = some suite ∧ Spared (c.requiredBy suite) (installsOn i calls)

theorem Delivered.served {tally : InstallTally} {calls : List BackendCall}
    (h : Delivered c 0 c.selected {} tally calls) :
    Served c calls (tally.blocked.map Prod.fst) tally.outcome := by
  have hblocked : ∀ i, tally.Blocks i ↔ ∃ suite, c.selected[i]? = some suite ∧
      Obstructed (c.requiredBy suite) (installsOn i calls) := by
    intro i
    have hnone : ¬InstallTally.Blocks {} i := List.not_mem_nil
    rw [h.blocked i, or_iff_right hnone]
    constructor
    · rintro ⟨k, suite, hk, rfl, hobstructed⟩
      rw [Nat.zero_add] at hobstructed ⊢
      exact ⟨suite, hk, hobstructed⟩
    · rintro ⟨suite, hk, hobstructed⟩
      exact ⟨i, suite, hk, (Nat.zero_add i).symm, hobstructed⟩
  have hoptional : 0 < tally.optional ↔ ∃ i suite, c.selected[i]? = some suite ∧
      Spared (c.requiredBy suite) (installsOn i calls) := by
    rw [h.optional, or_iff_right (Nat.lt_irrefl 0)]
    simp only [Nat.zero_add]
  obtain ⟨hfatal, hwarning, hsuccess⟩ := tally.outcome_severity
  simp only [hblocked, hoptional] at hfatal hwarning hsuccess
  refine ⟨fun i suite hi => ?_, hblocked, tally.outcome_phase, hfatal, hwarning, hsuccess⟩
  have hrow := h.row i suite hi
  rwa [Nat.zero_add] at hrow

/-- With a device for every selected suite, the phase installs what each is to have. -/
theorem installArtifacts_serves (r : Run σ β)
    (hlt : s.plan.config.selected.length ≤ r.devices.length) :
    Leads (· = r) (installArtifacts s) fun blocked r' => ∃ calls outcome,
      Served s.plan.config calls (blocked.map Prod.fst) outcome ∧
        r'.calls = r.calls ++ calls ∧ r'.phases = r.phases ++ [outcome] := by
  have hphases : Robust (fun _ => ()) (Move.In .artifactInstalling)
      fun r' : Run σ β => r'.phases = r.phases := fun _ _ h hadds => hadds.phases.trans h
  have hfrom := (installFrom_delivers (s := s) s.plan.config.selected 0 {} r (by omega)).and
    (installFrom_keeps s.backend.keeps_nothing hphases s.plan.config.selected 0 {})
  refine .bind (hfrom.conseq (fun r' h => ⟨h, h ▸ rfl⟩) fun _ _ h => h) fun tally =>
    .of_eq fun r₁ h₁ => ?_
  obtain ⟨⟨calls, hdelivered, hasked⟩, hsame⟩ := h₁
  refine .bind (Q := fun _ r' => r'.calls = r₁.calls ∧ r'.phases = r₁.phases ++ [tally.outcome])
    (.modify fun r' h => h ▸ ⟨rfl, rfl⟩) fun _ => .pure fun r' h => ?_
  exact ⟨calls, tally.outcome, hdelivered.served, h.1.trans hasked.calls, by rw [h.2, hsame]⟩

end Run

end DeviceLab
