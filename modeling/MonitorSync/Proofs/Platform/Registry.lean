import MonitorSync.Platform.Registry
import MonitorSync.Proofs.KeyMap
import MonitorSync.Proofs.Platform.Configuration
set_option autoImplicit false

/-!
# Platforms stay reachable

Named entries and the default entry live in one map. A platform that was registered is found under
its own name, whatever happens to other platforms, as long as its name is not one that the default
entry uses: the name `default` is the key of that entry, and the empty name refers to it.

## Main definitions

* `RegistryOp` — a registration or a removal, with what the client factory does then.
* `Registry.after` — the registry after a sequence of operations.
* `Registry.Sound` — every entry stands under its name or is the default one, and was built by one
  of some operations.
* `Registry.Undisturbed` — what may happen to other platforms while one is kept.

## Main results

* `RegistryOp.run_upsert_ok`, `RegistryOp.run_upsert_error` — what a registration leaves.
* `RegistryOp.entry_of_run` — an operation leaves no entries but old ones and the one that it built.
* `Registry.sound_after` — a registry holds only what was built for it.
* `Registry.get_of_upsert` — a registered platform is found under its name until it is registered
  again or removed.
-/

namespace MonitorSync

variable {Client : Type}

/-! ## Operations -/

/-- An operation on the registry. A registration comes with what the client factory does then. -/
inductive RegistryOp (Client : Type) where
  | upsert (name : String) (isDefault : Bool) (settings : ConnectionSettings)
    (credentials : Credentials)
    (build : ConnectionSettings → Credentials → Except Failure Client)
  | remove (name : String)

namespace RegistryOp

/-- The platform that an operation is on. -/
def name : RegistryOp Client → String
  | .upsert name .. => name
  | .remove name => name

/-- Runs an operation: whether a client was built, or why there is none, and the registry then. -/
def run (r : Registry Client) : RegistryOp Client → Except Failure Bool × Registry Client
  | .upsert name isDefault settings credentials build =>
    Id.run (r.upsert build name isDefault settings credentials)
  | .remove name => (.ok false, r.remove name)

end RegistryOp

namespace Registry

/-- The registry after a sequence of operations. -/
def runAll (r : Registry Client) (ops : List (RegistryOp Client)) : Registry Client :=
  ops.foldl (fun r op => (op.run r).2) r

/-- The registry after a sequence of operations, from an empty one. -/
def after (ops : List (RegistryOp Client)) : Registry Client := runAll {} ops

lemma after_append_cons (before since : List (RegistryOp Client)) (op : RegistryOp Client) :
    after (before ++ op :: since) = runAll (op.run (after before)).2 since := List.foldl_append

variable {r : Registry Client} {name key : String} {isDefault : Bool} {e : PlatformEntry Client}

/-! ## Lookups -/

/-- Without the default entry of a platform. -/
lemma get?_dropDefault : (r.dropDefault name).entries.get? key =
    if key = defaultName then (r.entries.get? defaultName).filter (·.name ≠ name)
    else r.entries.get? key := by
  rw [dropDefault]
  rcases hget : r.entries.get? defaultName with _ | e
  · split <;> simp_all
  · dsimp only
    by_cases hname : e.name = name
    · rw [if_pos hname, KeyMap.get?_erase]
      simp only [Option.filter_some, hname, eq_comm (a := defaultName)]
      simp
    · rw [if_neg hname]
      split <;> simp_all [Option.filter_some]

/-- With an entry as the default one, or no longer the default one. -/
lemma get?_setDefault : (r.setDefault name isDefault e).entries.get? key =
    if name ≠ defaultName ∧ key = defaultName then
      if isDefault then some e else (r.entries.get? defaultName).filter (·.name ≠ name)
    else r.entries.get? key := by
  rw [setDefault]
  by_cases hname : name = defaultName
  · simp [hname]
  · cases isDefault
    · simp [hname, get?_dropDefault]
    · simp [hname, KeyMap.get?_insert, eq_comm]

/-- Without a platform. -/
lemma get?_remove : (r.remove name).entries.get? key =
    if key = name then none
    else if key = defaultName then (r.entries.get? defaultName).filter (·.name ≠ name)
    else r.entries.get? key := by
  rw [remove, get?_dropDefault, KeyMap.get?_erase, KeyMap.get?_erase]
  by_cases hname : key = name
  · subst hname
    split <;> simp_all
  · by_cases hkey : key = defaultName
    · subst hkey
      simp [hname, Ne.symm hname]
    · simp [hname, hkey, Ne.symm hname]

/-- What is found under a name if its digest is known. -/
lemma unchanged?_eq_some {digest : String} :
    r.unchanged? name digest = some e ↔ r.entries.get? name = some e ∧ e.digest = digest := by
  rw [unchanged?]
  rcases hget : r.entries.get? name with _ | e'
  · simp
  · simp only [Option.ite_none_right_eq_some, Option.some.injEq]
    constructor
    · rintro ⟨hdigest, rfl⟩
      exact ⟨rfl, hdigest⟩
    · rintro ⟨rfl, hdigest⟩
      exact ⟨hdigest, rfl⟩

/-- An empty reference is looked up as the default name, and any other one as it is. -/
lemma get_eq_ok_iff : r.get name = .ok e ↔
    r.entries.get? (if name = "" then defaultName else name) = some e := by
  simp only [get, String.isEmpty_iff]
  split <;> simp_all

end Registry

/-! ## What one operation does -/

namespace RegistryOp

variable {r : Registry Client} {name key : String} {isDefault created : Bool}
  {settings : ConnectionSettings} {credentials : Credentials}
  {build : ConnectionSettings → Credentials → Except Failure Client} {failure : Failure}
  {e : PlatformEntry Client}

/-- A configuration that an operation gave is that of an entry, and the client of the entry is the
one that was built then. -/
def Built (e : PlatformEntry Client) : RegistryOp Client → Prop
  | .upsert name _ settings credentials build =>
    e.name = name ∧ e.settings = settings ∧ build settings credentials = .ok e.client ∧
      e.digest = configurationDigest name settings credentials
  | .remove _ => False

/-- What a registration does, case by case. -/
private lemma run_upsert (r : Registry Client) (name : String) (isDefault : Bool)
    (settings : ConnectionSettings) (credentials : Credentials)
    (build : ConnectionSettings → Credentials → Except Failure Client) :
    run r (.upsert name isDefault settings credentials build) =
      match r.unchanged? name (configurationDigest name settings credentials) with
      | some e => (.ok false, r.setDefault name isDefault e)
      | none =>
        match build settings credentials with
        | .error failure => (.error failure, r)
        | .ok client =>
          let e := ⟨name, settings, client, configurationDigest name settings credentials⟩
          (.ok true, Registry.setDefault ⟨r.entries.insert name e⟩ name isDefault e) := by
  rw [run, Registry.upsert]
  rcases r.unchanged? name (configurationDigest name settings credentials) with _ | e
  · rcases build settings credentials <;> rfl
  · rfl

/-- A registration keeps the entry of the platform, makes a new one, or fails. -/
private lemma run_upsert_cases (r : Registry Client) (name : String) (isDefault : Bool)
    (settings : ConnectionSettings) (credentials : Credentials)
    (build : ConnectionSettings → Credentials → Except Failure Client) :
    (∃ e, r.entries.get? name = some e ∧
        e.digest = configurationDigest name settings credentials ∧
        run r (.upsert name isDefault settings credentials build) =
          (.ok false, r.setDefault name isDefault e)) ∨
      (∃ e, (upsert name isDefault settings credentials build).Built e ∧
        run r (.upsert name isDefault settings credentials build) =
          (.ok true, Registry.setDefault ⟨r.entries.insert name e⟩ name isDefault e)) ∨
      ∃ failure,
        run r (.upsert name isDefault settings credentials build) = (.error failure, r) := by
  rw [run_upsert]
  rcases hkept : r.unchanged? name (configurationDigest name settings credentials) with _ | e
  · rcases hbuild : build settings credentials with failure | client
    · exact .inr (.inr ⟨failure, rfl⟩)
    · exact .inr (.inl ⟨⟨name, settings, client, configurationDigest name settings credentials⟩,
        ⟨rfl, rfl, hbuild, rfl⟩, rfl⟩)
  · obtain ⟨hget, hdigest⟩ := Registry.unchanged?_eq_some.1 hkept
    exact .inl ⟨e, hget, hdigest, rfl⟩

/-- **A registration that succeeds.** There is an entry for the platform after it, new or kept: a
new one was built from the configuration, and one that was kept has its digest. The default entry is
the same one if asked for, and else is not one of the platform. -/
theorem run_upsert_ok
    (h : (run r (.upsert name isDefault settings credentials build)).1 = .ok created) :
    ∃ e, (created = true ∧ (upsert name isDefault settings credentials build).Built e ∨
        created = false ∧ r.entries.get? name = some e ∧
          e.digest = configurationDigest name settings credentials) ∧
      ∀ key, (run r (.upsert name isDefault settings credentials build)).2.entries.get? key =
        if key = name then some e
        else if key = Registry.defaultName then
          if isDefault then some e
          else (r.entries.get? Registry.defaultName).filter (·.name ≠ name)
        else r.entries.get? key := by
  rcases run_upsert_cases r name isDefault settings credentials build with
    ⟨e, hget, hdigest, hrun⟩ | ⟨e, hbuilt, hrun⟩ | ⟨failure, hrun⟩
  · rw [hrun] at h ⊢
    obtain rfl : false = created := Except.ok.inj h
    refine ⟨e, .inr ⟨rfl, hget, hdigest⟩, fun key => ?_⟩
    rw [Registry.get?_setDefault]
    split_ifs <;> simp_all
  · rw [hrun] at h ⊢
    obtain rfl : true = created := Except.ok.inj h
    refine ⟨e, .inl ⟨rfl, hbuilt⟩, fun key => ?_⟩
    rw [Registry.get?_setDefault]
    split_ifs <;> simp_all [KeyMap.get?_insert, eq_comm (a := name)]
  · rw [hrun] at h
    cases h

/-- A registration that fails leaves the registry as it is. -/
theorem run_upsert_error
    (h : (run r (.upsert name isDefault settings credentials build)).1 = .error failure) :
    (run r (.upsert name isDefault settings credentials build)).2 = r := by
  rcases run_upsert_cases r name isDefault settings credentials build with
    ⟨_, _, _, hrun⟩ | ⟨_, _, hrun⟩ | ⟨_, hrun⟩
  · rw [hrun] at h
    cases h
  · rw [hrun] at h
    cases h
  · rw [hrun]

/-- **New entries.** What is found after an operation was there before, or it is the entry of a
client that the operation built, and that stands under the name of its platform. Either way it is
found where it was, or as the default one. -/
theorem entry_of_run {op : RegistryOp Client} (h : (op.run r).2.entries.get? key = some e) :
    (∃ before, r.entries.get? before = some e ∧ (key = before ∨ key = Registry.defaultName)) ∨
      (op.run r).1 = .ok true ∧ (op.run r).2.entries.get? op.name = some e ∧ op.Built e ∧
        (key = op.name ∨ key = Registry.defaultName) := by
  cases op with
  | upsert name isDefault settings credentials build =>
    rcases hrun : (run r (.upsert name isDefault settings credentials build)).1 with _ | created
    · rw [run_upsert_error hrun] at h
      exact .inl ⟨key, h, .inl rfl⟩
    · obtain ⟨e', hentry, hafter⟩ := run_upsert_ok hrun
      have hname : (run r (.upsert name isDefault settings credentials build)).2.entries.get? name =
          some e' := by
        rw [hafter, if_pos rfl]
      have hfound : (e' = e ∧ (key = name ∨ key = Registry.defaultName)) ∨
          ∃ before, r.entries.get? before = some e ∧
            (key = before ∨ key = Registry.defaultName) := by
        rw [hafter] at h
        split_ifs at h with hkey hdefault hasked
        · exact .inl ⟨Option.some.inj h, .inl hkey⟩
        · exact .inl ⟨Option.some.inj h, .inr hdefault⟩
        · exact .inr ⟨_, (Option.filter_eq_some_iff.1 h).1, .inr hdefault⟩
        · exact .inr ⟨key, h, .inl rfl⟩
      rcases hfound with ⟨rfl, hkey⟩ | hold
      · rcases hentry with ⟨rfl, hbuilt⟩ | ⟨-, hget, -⟩
        · exact .inr ⟨rfl, hname, hbuilt, hkey⟩
        · exact .inl ⟨name, hget, hkey⟩
      · exact .inl hold
  | remove name =>
    rw [run, Registry.get?_remove] at h
    split_ifs at h with hname hdefault
    · exact .inl ⟨_, (Option.filter_eq_some_iff.1 h).1, .inr hdefault⟩
    · exact .inl ⟨key, h, .inl rfl⟩

/-- Whether an operation succeeds and decides which entry, if any, is the default one. -/
def TakesDefault (r : Registry Client) (op : RegistryOp Client) : Prop :=
  (∃ b, (op.run r).1 = .ok b) ∧
    match op with
    | .upsert name isDefault .. => isDefault = true ∨ name = Registry.defaultName
    | .remove name => name = Registry.defaultName

/-- **Operations on other platforms.** An entry stays where it is during an operation on another
platform, unless it stands as the default one and the operation decides on that. -/
theorem get?_run_of_ne {op : RegistryOp Client} (hget : r.entries.get? key = some e)
    (hkey : key = e.name ∨ key = Registry.defaultName) (hname : op.name ≠ e.name)
    (hdefault : key = Registry.defaultName → ¬ op.TakesDefault r) :
    (op.run r).2.entries.get? key = some e := by
  rcases hrun : (op.run r).1 with failure | b
  · cases op with
    | upsert => rwa [run_upsert_error hrun]
    | remove => cases hrun
  have hne : key ≠ op.name := by
    by_cases hkey' : key = Registry.defaultName
    · rintro rfl
      refine hdefault hkey' ⟨⟨b, hrun⟩, ?_⟩
      cases op with
      | upsert => exact .inr hkey'
      | remove => exact hkey'
    · rw [hkey.resolve_right hkey']
      exact hname.symm
  have hkept : key = Registry.defaultName →
      (r.entries.get? Registry.defaultName).filter (·.name ≠ op.name) = some e := by
    rintro rfl
    rw [hget]
    exact Option.filter_some_pos (by simpa using hname.symm)
  cases op with
  | upsert name isDefault settings credentials build =>
    obtain ⟨e', -, hafter⟩ := run_upsert_ok hrun
    rw [hafter]
    split_ifs with hkey₁ hkey₂ hdefault'
    · exact absurd hkey₁ hne
    · exact absurd ⟨⟨b, hrun⟩, .inl hdefault'⟩ (hdefault hkey₂)
    · exact hkept hkey₂
    · exact hget
  | remove name =>
    rw [run, Registry.get?_remove]
    split_ifs with hkey₁ hkey₂
    · exact absurd hkey₁ hne
    · exact hkept hkey₂
    · exact hget

end RegistryOp

/-! ## Runs -/

namespace Registry

variable {r : Registry Client} {ops : List (RegistryOp Client)} {name key : String}
  {e : PlatformEntry Client}

/-- Every entry stands under its name or is the default one, and was built by one of some
operations. -/
def Sound (ops : List (RegistryOp Client)) (r : Registry Client) : Prop :=
  ∀ key e, r.entries.get? key = some e →
    (key = e.name ∨ key = defaultName) ∧ ∃ op ∈ ops, op.Built e

/-- An operation that is one of them keeps it so. -/
lemma Sound.run {op : RegistryOp Client} (h : r.Sound ops) (hop : op ∈ ops) :
    (op.run r).2.Sound ops := by
  intro key e hget
  rcases RegistryOp.entry_of_run hget with ⟨before, hbefore, hkey⟩ | ⟨-, -, hbuilt, hkey⟩
  · obtain ⟨hname, hsource⟩ := h before e hbefore
    refine ⟨?_, hsource⟩
    rcases hkey with rfl | hdefault
    · exact hname
    · exact .inr hdefault
  · refine ⟨?_, op, hop, hbuilt⟩
    cases op with
    | upsert name isDefault settings credentials build =>
      rcases hkey with rfl | hdefault
      · exact .inl hbuilt.1.symm
      · exact .inr hdefault
    | remove => exact hbuilt.elim

/-- **Entries are built for their platform.** -/
theorem sound_after (ops : List (RegistryOp Client)) : (after ops).Sound ops := by
  suffices hrun : ∀ (done : List (RegistryOp Client)) (r : Registry Client), done ⊆ ops →
      r.Sound ops → (r.runAll done).Sound ops from
    hrun ops {} (List.Subset.refl ops) fun _ _ hget => by cases hget
  intro done
  induction done with
  | nil => exact fun _ _ h => h
  | cons op done ih =>
    intro r hops h
    exact ih _ (fun _ hop => hops (List.mem_cons_of_mem _ hop)) (h.run (hops List.mem_cons_self))

/-- What may happen while a platform is kept: operations on other platforms, and none of them
decides on the default entry if the name of the platform is one that this entry uses. -/
def Undisturbed (name : String) : Registry Client → List (RegistryOp Client) → Prop
  | _, [] => True
  | r, op :: ops =>
    (op.name ≠ name ∧ (name = "" ∨ name = defaultName → ¬ op.TakesDefault r)) ∧
      Undisturbed name (op.run r).2 ops

/-- An entry stays where it is during what may happen while its platform is kept. -/
lemma get?_runAll (hget : r.entries.get? key = some e)
    (hkey : key = e.name ∨ key = defaultName)
    (hnames : key = defaultName → e.name = "" ∨ e.name = defaultName)
    (h : Undisturbed e.name r ops) :
    (r.runAll ops).entries.get? key = some e := by
  induction ops generalizing r with
  | nil => exact hget
  | cons op ops ih =>
    obtain ⟨⟨hname, hdefault⟩, hrest⟩ := h
    exact ih (op.get?_run_of_ne hget hkey hname fun hkey => hdefault (hnames hkey)) hrest

/-- The digest of a configuration is not that of another one that was given to some operations. -/
def NoCollision (ops : List (RegistryOp Client)) (name : String) (settings : ConnectionSettings)
    (credentials : Credentials) : Prop :=
  ∀ name' isDefault settings' credentials' build,
    RegistryOp.upsert name' isDefault settings' credentials' build ∈ ops →
    configurationDigest name' settings' credentials' =
      configurationDigest name settings credentials →
    configurationText name' settings' credentials' = configurationText name settings credentials

/-- **Registered platforms stay reachable.** Take any operations, then a registration that succeeds,
then operations on other platforms. The platform is found under its name, and its entry is built
from the settings and credentials of that registration: by it, or by an earlier one of the platform
with the same settings and credentials. This holds of every name but two. The empty name refers to
the default platform, so it must be registered as that; and a platform with this name or the name
`default` is found as long as no operation decides on the default entry.

**Proof sketch.** An entry is kept if it has the digest of the configuration. It was built by an
earlier registration, whose digest it has; digests do not collide, and a configuration can be read
off its text, so that was a registration of the same configuration. Operations on other platforms do
not move it. -/
theorem get_of_upsert {isDefault created : Bool} {settings : ConnectionSettings}
    {credentials : Credentials}
    {build : ConnectionSettings → Credentials → Except Failure Client}
    {before since : List (RegistryOp Client)}
    (hempty : name = "" → isDefault = true) (hdigest : NoCollision before name settings credentials)
    (hupsert : ((RegistryOp.upsert name isDefault settings credentials build).run
      (after before)).1 = .ok created)
    (hsince : Undisturbed name ((RegistryOp.upsert name isDefault settings credentials build).run
      (after before)).2 since) :
    ∃ e, (after (before ++ .upsert name isDefault settings credentials build :: since)).get name =
        .ok e ∧ e.name = name ∧ e.settings = settings ∧
      (created = true ∧ build settings credentials = .ok e.client ∨
        created = false ∧ ∃ isDefault' build',
          .upsert name isDefault' settings credentials build' ∈ before ∧
            build' settings credentials = .ok e.client) := by
  obtain ⟨e, hentry, hafter⟩ := RegistryOp.run_upsert_ok hupsert
  have hconfig : e.name = name ∧ e.settings = settings ∧
      (created = true ∧ build settings credentials = .ok e.client ∨
        created = false ∧ ∃ isDefault' build',
          .upsert name isDefault' settings credentials build' ∈ before ∧
            build' settings credentials = .ok e.client) := by
    rcases hentry with ⟨hcreated, hname, hsettings, hbuild, -⟩ | ⟨hcreated, hget, hsame⟩
    · exact ⟨hname, hsettings, .inl ⟨hcreated, hbuild⟩⟩
    · obtain ⟨-, op, hop, hbuilt⟩ := sound_after before name e hget
      cases op with
      | upsert name' isDefault' settings' credentials' build' =>
        obtain ⟨hname, hsettings, hbuild, hthen⟩ := hbuilt
        obtain ⟨rfl, rfl, rfl⟩ := configurationText_inj.1
          (hdigest _ _ _ _ _ hop (hthen.symm.trans hsame))
        exact ⟨hname, hsettings, .inr ⟨hcreated, isDefault', build', hop, hbuild⟩⟩
      | remove => exact hbuilt.elim
  obtain ⟨rfl, hsettings, hclient⟩ := hconfig
  refine ⟨e, get_eq_ok_iff.2 ?_, rfl, hsettings, hclient⟩
  rw [after_append_cons]
  by_cases hn : e.name = ""
  · refine get?_runAll ?_ (.inr (if_pos hn)) (fun _ => .inl hn) hsince
    rw [hafter, if_pos hn, hn, hempty hn, if_neg (by decide), if_pos rfl, if_pos rfl]
  · refine get?_runAll ?_ (.inl (if_neg hn)) ?_ hsince
    · rw [hafter, if_neg hn, if_pos rfl]
    · rw [if_neg hn]
      exact .inr

/-- Settings and credentials of some platform. -/
private def someSettings : ConnectionSettings := { url := "https://a", timeoutSeconds := 10 }

private def someCredentials : Credentials := ⟨"admin", "one"⟩

/-- A registration with these; the client is the address. -/
private def register (name : String) (isDefault : Bool) : RegistryOp String :=
  .upsert name isDefault someSettings someCredentials fun settings _ => .ok settings.url

/-- A platform that is registered again with the same configuration, after and before registrations
of another one as the default platform. -/
theorem get_of_upsert_again :
    let before := [register "prod" true, register "lab" true]
    let since := [register "lab" true, .remove "lab"]
    NoCollision before "prod" someSettings someCredentials ∧
      ((register "prod" false).run (after before)).1 = .ok false ∧
      Undisturbed "prod" ((register "prod" false).run (after before)).2 since ∧
      ∃ e, (after (before ++ register "prod" false :: since)).get "prod" = .ok e ∧
        e.name = "prod" ∧ e.settings = someSettings := by
  intro before since
  have hdigest : NoCollision before "prod" someSettings someCredentials := by
    intro name isDefault settings credentials build hop hsame
    simp only [before, register, List.mem_cons, List.not_mem_nil, or_false,
      RegistryOp.upsert.injEq] at hop
    rcases hop with ⟨rfl, -, rfl, rfl, -⟩ | ⟨rfl, -, rfl, rfl, -⟩
    · rfl
    · exact absurd hsame (by decide +kernel)
  have hupsert : ((register "prod" false).run (after before)).1 = .ok false := by
    decide +kernel
  have hsince : Undisturbed "prod" ((register "prod" false).run (after before)).2 since := by
    simp [Undisturbed, since, register, RegistryOp.name, defaultName]
  obtain ⟨e, hget, hname, hsettings, -⟩ := get_of_upsert (by decide) hdigest hupsert hsince
  exact ⟨hdigest, hupsert, hsince, e, hget, hname, hsettings⟩

/-- A platform without a name is not found under it, since an empty reference names the default
platform; nor is one named `default` once another platform is the default one. -/
theorem get_of_upsert_default_names :
    (((register "" false).run (after [])).1 = .ok true ∧
      (after [register "" false]).get "" = .error (.platformNotFound defaultName)) ∧
    ((register "default" false).run (after [])).1 = .ok true ∧
      ∃ e, (after [register "default" false, register "main" true]).get "default" = .ok e ∧
        e.name = "main" :=
  ⟨⟨rfl, rfl⟩, rfl, _, rfl, rfl⟩

end Registry

end MonitorSync
