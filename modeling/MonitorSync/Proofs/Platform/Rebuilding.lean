import Mathlib.Data.List.Induction
import MonitorSync.Proofs.Platform.Registry
set_option autoImplicit false

/-!
# Clients are built on a change

A client is costly, so a registration builds one only if there is none for the configuration of the
platform. What tells that is the digest that stands in the entry. As far as digests tell
configurations apart, that is right: every entry has the digest of the configuration that it was
built from, also where it is found as the default one.

## Main definitions

* `PlatformConfiguration` — a platform's name, settings and credentials.
* `BuiltFrom` — an entry was built from a configuration by one of some operations.
* `ClientFactory` — what builds clients; `ClientFactory.ask` keeps what it was asked for.
* `Registry.IsNew`, `Registry.HoldsFor` — whether a configuration is that of the entry of its
  platform.

## Main results

* `Registry.exists_builtFrom` — every entry was built from some configuration.
* `Registry.unchanged?_after_iff` — what the digest tells.
* `Registry.builds_iff_changed` — a client is built exactly on a change, and nothing happens to the
  registry unless that succeeds.
-/

namespace MonitorSync

variable {Client : Type}

/-! ## Configurations -/

/-- What a client is built for. -/
structure PlatformConfiguration where
  name : String
  settings : ConnectionSettings
  credentials : Credentials
deriving DecidableEq

namespace PlatformConfiguration

/-- The digest of a configuration. -/
def digest (c : PlatformConfiguration) : String :=
  configurationDigest c.name c.settings c.credentials

/-- The registration of a platform with a configuration. -/
def register (c : PlatformConfiguration) (isDefault : Bool)
    (build : ConnectionSettings → Credentials → Except Failure Client) : RegistryOp Client :=
  .upsert c.name isDefault c.settings c.credentials build

end PlatformConfiguration

/-! ## What entries are built from -/

open Registry

/-- An entry was built from a configuration by one of some operations: at its turn that registered a
platform with the configuration, told that it built a client, and left the entry under the name of
the platform. -/
def BuiltFrom (ops : List (RegistryOp Client)) (e : PlatformEntry Client)
    (c : PlatformConfiguration) : Prop :=
  ∃ before isDefault build since, ops = before ++ c.register isDefault build :: since ∧
    ((c.register isDefault build).run (after before)).1 = .ok true ∧
    ((c.register isDefault build).run (after before)).2.entries.get? c.name = some e

namespace BuiltFrom

variable {ops : List (RegistryOp Client)} {op : RegistryOp Client} {e : PlatformEntry Client}
  {c : PlatformConfiguration}

/-- Later operations do not change what an entry was built from. -/
lemma append (h : BuiltFrom ops e c) : BuiltFrom (ops ++ [op]) e c := by
  obtain ⟨before, isDefault, build, since, rfl, hrun, hget⟩ := h
  exact ⟨before, isDefault, build, since ++ [op], by simp, hrun, hget⟩

/-- An entry has the name, the settings and the digest of the configuration that it was built
from. -/
lemma entry_eq (h : BuiltFrom ops e c) :
    e.name = c.name ∧ e.settings = c.settings ∧ e.digest = c.digest := by
  obtain ⟨before, isDefault, build, since, -, hrun, hget⟩ := h
  obtain ⟨e', hentry, hafter⟩ := RegistryOp.run_upsert_ok hrun
  obtain rfl : e' = e := by
    have hown := hafter c.name
    rw [if_pos rfl] at hown
    exact Option.some.inj (hown.symm.trans hget)
  rcases hentry with ⟨-, hname, hsettings, -, hdigest⟩ | ⟨hcreated, -⟩
  · exact ⟨hname, hsettings, hdigest⟩
  · cases hcreated

/-- The digest of an entry is that of a configuration only if the entry was built from it, as far as
digests tell. -/
lemma digest_eq_iff {c' : PlatformConfiguration}
    (hdigest : NoCollision ops c.name c.settings c.credentials) (h : BuiltFrom ops e c') :
    e.digest = c.digest ↔ c' = c := by
  refine ⟨fun hsame => ?_, by rintro rfl; exact h.entry_eq.2.2⟩
  have hc' : e.digest = c'.digest := h.entry_eq.2.2
  obtain ⟨before, isDefault, build, since, rfl, -, -⟩ := h
  have hmem : c'.register isDefault build ∈ before ++ c'.register isDefault build :: since := by
    simp
  have htext := hdigest _ _ _ _ _ hmem (hc'.symm.trans hsame)
  obtain ⟨hname, hsettings, hcredentials⟩ := configurationText_inj.1 htext
  cases c
  cases c'
  simp_all

end BuiltFrom

namespace Registry

variable {ops : List (RegistryOp Client)} {key : String} {e : PlatformEntry Client}
  {c : PlatformConfiguration}

lemma after_concat (op : RegistryOp Client) : after (ops ++ [op]) = (op.run (after ops)).2 :=
  after_append_cons ops [] op

/-- **Provenance.** Whatever name it is found under, an entry was built from some configuration. -/
theorem exists_builtFrom (h : (after ops).entries.get? key = some e) : ∃ c, BuiltFrom ops e c := by
  induction ops using List.reverseRecOn generalizing key e with
  | nil => cases h
  | append_singleton ops op ih =>
    rw [after_concat] at h
    rcases RegistryOp.entry_of_run h with ⟨before, hold, -⟩ | ⟨hbuilt, hown, -⟩
    · obtain ⟨c, hc⟩ := ih hold
      exact ⟨c, hc.append⟩
    · cases op with
      | upsert name isDefault settings credentials build =>
        exact ⟨⟨name, settings, credentials⟩, ops, isDefault, build, [], rfl, hbuilt, hown⟩
      | remove => cases hbuilt

/-- **What the digest tells.** An entry is taken for one of a configuration exactly if it was built
from it. -/
theorem unchanged?_after_iff (hdigest : NoCollision ops c.name c.settings c.credentials) :
    (after ops).unchanged? c.name c.digest = some e ↔
      (after ops).entries.get? c.name = some e ∧ BuiltFrom ops e c := by
  rw [unchanged?_eq_some]
  refine and_congr_right fun hget => ?_
  constructor
  · intro hsame
    obtain ⟨c', hc'⟩ := exists_builtFrom hget
    rwa [(hc'.digest_eq_iff hdigest).1 hsame] at hc'
  · intro hc
    exact hc.entry_eq.2.2

end Registry

/-! ## Factories -/

/-- What builds clients. The answer may depend on all that was asked for before, newest first. -/
abbrev ClientFactory (Client : Type) :=
  List (ConnectionSettings × Credentials) → ConnectionSettings → Credentials →
    Except Failure Client

/-- Asks a factory for a client, and keeps what was asked for. -/
def ClientFactory.ask (factory : ClientFactory Client) (settings : ConnectionSettings)
    (credentials : Credentials) :
    StateM (List (ConnectionSettings × Credentials)) (Except Failure Client) :=
  fun asked => (factory asked settings credentials, (settings, credentials) :: asked)

/-- What a registration comes to: its result, the registry then, and all that the factory was asked
for up to then. -/
structure Registration (Client : Type) where
  result : Except Failure Bool
  registry : Registry Client
  asked : List (ConnectionSettings × Credentials)

namespace Registry

variable {r : Registry Client} {ops : List (RegistryOp Client)} {e : PlatformEntry Client}
  {c : PlatformConfiguration} {isDefault : Bool} {factory : ClientFactory Client}
  {asked : List (ConnectionSettings × Credentials)}

/-- Registers a platform with a configuration. -/
def registerWith (factory : ClientFactory Client) (asked : List (ConnectionSettings × Credentials))
    (r : Registry Client) (c : PlatformConfiguration) (isDefault : Bool) : Registration Client :=
  let ((result, registry), asked') :=
    (r.upsert factory.ask c.name isDefault c.settings c.credentials).run asked
  ⟨result, registry, asked'⟩

/-- Where there is a client for the configuration, the factory is not asked. -/
lemma registerWith_of_unchanged (h : r.unchanged? c.name c.digest = some e) :
    registerWith factory asked r c isDefault =
      ⟨.ok false, r.setDefault c.name isDefault e, asked⟩ := by
  have hkept : r.unchanged? c.name (configurationDigest c.name c.settings c.credentials) =
    some e := h
  simp only [registerWith, upsert, hkept]
  rfl

/-- Where there is none, the factory is asked once, and the rest is as if it had been known what it
would say. -/
lemma registerWith_of_changed (h : r.unchanged? c.name c.digest = none) :
    registerWith factory asked r c isDefault =
      ⟨((c.register isDefault (factory asked)).run r).1,
        ((c.register isDefault (factory asked)).run r).2,
        (c.settings, c.credentials) :: asked⟩ := by
  have hnone : r.unchanged? c.name (configurationDigest c.name c.settings c.credentials) = none := h
  have hask : (factory.ask c.settings c.credentials).run asked =
      pure (factory asked c.settings c.credentials, (c.settings, c.credentials) :: asked) := rfl
  rcases hanswer : factory asked c.settings c.credentials with failure | client
  all_goals
    simp only [registerWith, PlatformConfiguration.register, RegistryOp.run, upsert, hnone,
      StateT.run_bind, hask, hanswer]
    rfl

/-- What an operation that asks the factory comes to. -/
lemma run_register_of_changed (h : r.unchanged? c.name c.digest = none) (isDefault : Bool)
    (build : ConnectionSettings → Credentials → Except Failure Client) :
    match build c.settings c.credentials with
    | .ok client => ((c.register isDefault build).run r).1 = .ok true ∧
        ∃ e, ((c.register isDefault build).run r).2.entries.get? c.name = some e ∧ e.client = client
    | .error failure => (c.register isDefault build).run r = (.error failure, r) := by
  have hnone : r.unchanged? c.name (configurationDigest c.name c.settings c.credentials) = none := h
  rcases hanswer : build c.settings c.credentials with failure | client
  · simp only [PlatformConfiguration.register, RegistryOp.run, upsert, hnone, hanswer, bind, pure,
      Id.run]
  · have hrun : ((c.register isDefault build).run r).1 = .ok true := by
      simp only [PlatformConfiguration.register, RegistryOp.run, upsert, hnone, hanswer, bind, pure,
        Id.run]
    obtain ⟨e, hentry, hafter⟩ := RegistryOp.run_upsert_ok hrun
    refine ⟨hrun, e, (hafter c.name).trans (if_pos rfl), ?_⟩
    rcases hentry with ⟨-, -, -, hbuild, -⟩ | ⟨hcreated, -⟩
    · exact (Except.ok.inj (hanswer.symm.trans hbuild)).symm
    · cases hcreated

/-! ## Changes -/

/-- After some operations, the registry has no entry under the name of a configuration, or one that
was built from another configuration. -/
def IsNew (ops : List (RegistryOp Client)) (c : PlatformConfiguration) : Prop :=
  (after ops).entries.get? c.name = none ∨
    ∃ e c', (after ops).entries.get? c.name = some e ∧ BuiltFrom ops e c' ∧ c' ≠ c

/-- After some operations, the registry has an entry under the name of a configuration that was
built from it. -/
def HoldsFor (ops : List (RegistryOp Client)) (c : PlatformConfiguration)
    (e : PlatformEntry Client) : Prop :=
  (after ops).entries.get? c.name = some e ∧ BuiltFrom ops e c

/-- The digest tells a new configuration. -/
lemma isNew_iff (hdigest : NoCollision ops c.name c.settings c.credentials) :
    IsNew ops c ↔ (after ops).unchanged? c.name c.digest = none := by
  constructor
  · intro hnew
    rw [Option.eq_none_iff_forall_ne_some]
    intro e hkept
    obtain ⟨hget, hdigest'⟩ := unchanged?_eq_some.1 hkept
    rcases hnew with hnone | ⟨e', c', hget', hbuilt, hne⟩
    · cases hnone.symm.trans hget
    · obtain rfl : e' = e := Option.some.inj (hget'.symm.trans hget)
      exact hne ((hbuilt.digest_eq_iff hdigest).1 hdigest')
  · intro hnone
    rcases hget : (after ops).entries.get? c.name with _ | e
    · exact .inl hget
    · obtain ⟨c', hbuilt⟩ := exists_builtFrom hget
      refine .inr ⟨e, c', hget, hbuilt, ?_⟩
      rintro rfl
      cases hnone.symm.trans ((unchanged?_after_iff hdigest).2 ⟨hget, hbuilt⟩)

/-- **Clients are built on a change.** Take a registry after any operations, and a registration with
a configuration whose digest is that of no other one. If the registry has no entry under the name,
or one that was built from another configuration, then the factory is asked once; where it builds a
client, there is an entry with that client for the configuration, and where it fails, that is the
result and nothing has changed. If the registry has an entry that was built from the configuration,
then the factory is not asked, and the entry stays. One of the two is always the case.

**Proof sketch.** Every entry was built from some configuration and has its digest, so an entry with
the digest of the configuration at hand was built from that. -/
theorem builds_iff_changed (hdigest : NoCollision ops c.name c.settings c.credentials)
    (isDefault : Bool) (factory : ClientFactory Client)
    (asked : List (ConnectionSettings × Credentials)) :
    let out := registerWith factory asked (after ops) c isDefault
    (IsNew ops c → out.asked = (c.settings, c.credentials) :: asked ∧
      match factory asked c.settings c.credentials with
      | .ok client => out.result = .ok true ∧ ∃ e, out.registry.entries.get? c.name = some e ∧
          e.client = client ∧ BuiltFrom (ops ++ [c.register isDefault (factory asked)]) e c
      | .error failure => out.result = .error failure ∧ out.registry = after ops) ∧
    (∀ e, HoldsFor ops c e → out.asked = asked ∧ out.result = .ok false ∧
      out.registry.entries.get? c.name = some e) ∧
    (IsNew ops c ∨ ∃ e, HoldsFor ops c e) := by
  intro out
  refine ⟨fun hnew => ?_, fun e hholds => ?_, ?_⟩
  · have hnone := (isNew_iff hdigest).1 hnew
    have hout : out = _ := registerWith_of_changed hnone
    rw [hout]
    refine ⟨rfl, ?_⟩
    have hrun := run_register_of_changed hnone isDefault (factory asked)
    rcases hanswer : factory asked c.settings c.credentials with failure | client
    · rw [hanswer] at hrun
      exact ⟨congrArg Prod.fst hrun, congrArg Prod.snd hrun⟩
    · rw [hanswer] at hrun
      obtain ⟨hresult, e, hget, hclient⟩ := hrun
      exact ⟨hresult, e, hget, hclient, ops, isDefault, factory asked, [], rfl, hresult, hget⟩
  · have hkept := (unchanged?_after_iff hdigest).2 hholds
    have hout : out = _ := registerWith_of_unchanged hkept
    rw [hout]
    refine ⟨rfl, rfl, ?_⟩
    rw [get?_setDefault]
    split_ifs with hname hdefault
    · rfl
    · exact absurd hname.2 hname.1
    · exact hholds.1
  · rcases hkept : (after ops).unchanged? c.name c.digest with _ | e
    · exact .inl ((isNew_iff hdigest).2 hkept)
    · exact .inr ⟨e, (unchanged?_after_iff hdigest).1 hkept⟩

/-- The configuration of some platform of a name. -/
private def samplePlatform (name : String) : PlatformConfiguration :=
  ⟨name, { url := "https://a", timeoutSeconds := 10 }, ⟨"admin", "one"⟩⟩

/-- A factory that builds a single client, and then fails. -/
private def singleClient : ClientFactory String := fun asked settings _ =>
  if asked.isEmpty then .ok settings.url else .error (.other "client not built")

/-- The entry of the default platform is not that of a platform named `default`, also where these
are reached and used alike: the factory is asked again, and as it fails, the default platform
stays. -/
theorem builds_iff_changed_default :
    let ops := [(samplePlatform "main").register true (singleClient [])]
    let c := samplePlatform "default"
    let asked := [(c.settings, c.credentials)]
    let out := registerWith singleClient asked (after ops) c false
    NoCollision ops c.name c.settings c.credentials ∧ IsNew ops c ∧
      out.asked = [(c.settings, c.credentials), (c.settings, c.credentials)] ∧
      out.result = .error (.other "client not built") ∧ out.registry = after ops ∧
      (after ops).names = ["default", "main"] := by
  intro ops c asked out
  have hdigest : NoCollision ops c.name c.settings c.credentials := by
    intro name isDefault settings credentials build hop hsame
    simp only [ops, PlatformConfiguration.register, List.mem_singleton,
      RegistryOp.upsert.injEq] at hop
    obtain ⟨rfl, -, rfl, rfl, -⟩ := hop
    exact absurd hsame (by decide +kernel)
  have hnew : IsNew ops c := (isNew_iff hdigest).2 (by decide +kernel)
  obtain ⟨hasked, hresult, hregistry⟩ :=
    (builds_iff_changed hdigest false singleClient asked).1 hnew
  exact ⟨hdigest, hnew, hasked, hresult, hregistry, by decide +kernel⟩

end Registry

end MonitorSync
