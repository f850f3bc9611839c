import MonitorSync.Clapi.Client
import MonitorSync.Proofs.Clapi.Protocol
import MonitorSync.Proofs.Json
set_option autoImplicit false

/-!
# The values of a command

A change puts its arguments one after the other, with semicolons between them and bars between the
names of a list, and nothing in an argument is escaped. Reading the values back is to split them at
the same separators, which gives the arguments exactly if none of them has a separator in it.

## Main definitions

* `Command.splitText` — the parts of a text between separators.
* `Command.change?` — the change that a command describes to who splits its values.
* `RemoteCall.fields` — the values of the command of a change.
* `RemoteCall.Separable` — no argument of a change has a separator in it.
* `RemoteCall.asSent` — a change without what a command does not tell.
* `Session.Posts` — what a change posts in a session.

## Main results

* `Command.splitText_intercalate_iff` — when joined texts are told apart again.
* `RemoteCall.change?_eq_some_iff` — when the command of a change reads back.
* `Session.posts_iff` — a change posts its command and nothing else.
* `Session.reads_back_iff` — when what a change posts reads back, and is posted by no other change.
-/

namespace MonitorSync

namespace Command

/-! ## Separated texts -/

section Separated

variable {sep : Char} {cs : List Char} {parts : List (List Char)} {values : List String}

/-- A separator more is a part more. -/
private lemma length_splitOn : (cs.splitOn sep).length = cs.count sep + 1 := by
  induction cs with
  | nil => rfl
  | cons c cs ih =>
    rw [List.splitOn_eq_splitOnP] at ih ⊢
    rw [List.splitOnP_cons_eq_if_modifyHead, List.count_cons]
    cases c == sep with
    | true => simpa using ih
    | false => simpa using ih

/-- The separators in a joined list: those in its parts, and one between any two of these. -/
private lemma count_intercalate (h : parts ≠ []) :
    ([sep].intercalate parts).count sep + 1 = parts.flatten.count sep + parts.length := by
  induction parts with
  | nil => exact absurd rfl h
  | cons part rest ih =>
    cases rest with
    | nil => simp
    | cons next rest =>
      have hrest := ih (List.cons_ne_nil next rest)
      rw [List.intercalate_cons_cons, List.count_append, List.count_append,
        List.count_singleton_self, List.flatten_cons, List.count_append, List.length_cons]
      omega

/-- The parts of a text between separators. -/
def splitText (sep : Char) (s : String) : List String := (s.toList.splitOn sep).map String.ofList

/-- Joined texts are as many as before exactly if none of them has the separator in it. -/
lemma length_splitText_intercalate_iff (h : values ≠ []) :
    (splitText sep (String.intercalate (String.singleton sep) values)).length = values.length ↔
      ∀ v ∈ values, sep ∉ v.toList := by
  have hcount : ([sep].intercalate (values.map String.toList)).count sep + 1 = _ :=
    count_intercalate (mt List.map_eq_nil_iff.1 h)
  have hzero : (values.map String.toList).flatten.count sep = 0 ↔
      ∀ v ∈ values, sep ∉ v.toList := by
    simp [List.count_eq_zero]
  rw [List.length_map] at hcount
  rw [splitText, List.length_map, length_splitOn, String.toList_intercalate,
    String.toList_singleton, ← hzero]
  omega

/-- **Separators.** Joined texts are told apart again exactly if none of them has the separator in
it. -/
theorem splitText_intercalate_iff (h : values ≠ []) :
    splitText sep (String.intercalate (String.singleton sep) values) = values ↔
      ∀ v ∈ values, sep ∉ v.toList := by
  refine ⟨fun hsplit => (length_splitText_intercalate_iff h).1 (by rw [hsplit]), fun hfree => ?_⟩
  have hparts : ∀ l ∈ values.map String.toList, sep ∉ l := by simpa using hfree
  rw [splitText, String.toList_intercalate, String.toList_singleton,
    List.splitOn_intercalate sep hparts (mt List.map_eq_nil_iff.1 h), List.map_map]
  simp [Function.comp_def]

end Separated

/-! ## Reading a command -/

/-- The command of a written form. -/
def ofJson? (v : Json) : Option Command := do
  let action ← (v.field "action").toText?
  let object ← (v.field "object").toText?
  let values ← (v.field "values").toText?
  return ⟨action, object, values⟩

/-- A written command is read back. -/
lemma ofJson?_toJson (command : Command) : ofJson? command.toJson = some command := by
  have hfield : ∀ key, command.toJson.field key = (KeyMap.lookup key
      [("values", .str command.values), ("object", .str command.object),
        ("action", .str command.action)]).getD .null :=
    fun key => congrArg (Option.getD · Json.null) Json.get?_ofEntries
  simp [ofJson?, hfield, KeyMap.lookup, Json.toText?]

/-- What is made of values if there are `n` of them. -/
def exactly? (n : Nat) (make : (Fin n → String) → Option RemoteCall) (values : List String) :
    Option RemoteCall :=
  if h : values.length = n then make fun i => values[i] else none

/-- The change of an action on a kind of object with these values. The names of a list are split at
bars. -/
def ofValues? (object action : String) : (values : List String) → Option RemoteCall :=
  match object, action with
  | "SERVICE", "add" => exactly? 3 fun v => some (.addService (v 0) (v 1) (v 2))
  | "SERVICE", "setparam" => exactly? 4 fun v => some (.setServiceParam (v 0) (v 1) (v 2) (v 3))
  | "SERVICE", "addservicegroup" =>
    exactly? 3 fun v => some (.setServiceGroups (v 0) (v 1) (splitText '|' (v 2)))
  | "SERVICE", "delservicegroup" =>
    exactly? 3 fun v => some (.deleteServiceGroups (v 0) (v 1) (splitText '|' (v 2)))
  | "SERVICE", "addcategory" =>
    exactly? 3 fun v => some (.setServiceCategories (v 0) (v 1) (splitText '|' (v 2)))
  | "SERVICE", "delcategory" =>
    exactly? 3 fun v => some (.deleteServiceCategories (v 0) (v 1) (splitText '|' (v 2)))
  | "SERVICE", "setmacro" => exactly? 6 fun v =>
    if v 5 = "" then
      some (.setServiceMacro (v 0) (v 1) ⟨v 2, v 3, v 4, ServiceMacro.directSource⟩)
    else none
  | "SERVICE", "delmacro" => exactly? 3 fun v => some (.deleteServiceMacro (v 0) (v 1) (v 2))
  | "SERVICE", "sethost" => exactly? 3 fun v => some (.setServiceHost (v 0) (v 1) (v 2))
  | "SERVICE", "del" => exactly? 2 fun v => some (.deleteService (v 0) (v 1))
  | "SG", "add" => exactly? 2 fun v => some (.addGroup (v 0) (v 1))
  | "SG", "setparam" => exactly? 3 fun v => some (.setGroupParam (v 0) (v 1) (v 2))
  | "SG", "del" => exactly? 1 fun v => some (.deleteGroup (v 0))
  | _, _ => fun _ => none

/-- Only that many values make anything. -/
lemma length_of_exactly? {n : Nat} {make : (Fin n → String) → Option RemoteCall}
    {values : List String} {q : RemoteCall} (h : exactly? n make values = some q) :
    values.length = n := by
  by_contra hn
  rw [exactly?, dif_neg hn] at h
  cases h

/-- The change that a command describes to who splits its values at semicolons, and the names of a
list at bars. -/
def change? (command : Command) : Option RemoteCall :=
  ofValues? command.object command.action (splitText ';' command.values)

end Command

/-- The change that the body of a request describes. -/
def HttpBody.change? : HttpBody → Option RemoteCall
  | .form _ => none
  | .json v => (Command.ofJson? v).bind Command.change?

/-- The change that a posted command describes. -/
lemma HttpBody.change?_json (command : Command) :
    (HttpBody.json command.toJson).change? = command.change? := by
  rw [HttpBody.change?, Command.ofJson?_toJson, Option.bind_some]

open Command

/-! ## The arguments of a change -/

/-- A macro as it is set: the flag is `0` when it is not given, and the source is not told. -/
def ServiceMacro.asSent (m : ServiceMacro) : ServiceMacro :=
  ⟨m.name, m.value, m.effectiveFlag, directSource⟩

namespace RemoteCall

/-- A change without what a command does not tell. -/
def asSent : RemoteCall → RemoteCall
  | setServiceMacro host name m => setServiceMacro host name m.asSent
  | r => r

/-- The arguments of a change as they are sent, apart from a list of names. -/
def values : RemoteCall → List String
  | getService host name => [host, name]
  | addService host name template => [host, name, template]
  | setServiceParam host name param value => [host, name, param, value]
  | setServiceGroups host name _ => [host, name]
  | deleteServiceGroups host name _ => [host, name]
  | setServiceCategories host name _ => [host, name]
  | deleteServiceCategories host name _ => [host, name]
  | setServiceMacro host name m => [host, name, m.name, m.value, m.effectiveFlag, ""]
  | deleteServiceMacro host name macroName => [host, name, macroName]
  | setServiceHost host name newHost => [host, name, newHost]
  | deleteService host name => [host, name]
  | getGroup name => [name]
  | addGroup name description => [name, description]
  | setGroupParam name param value => [name, param, value]
  | deleteGroup name => [name]

/-- The list of names of a change that has one. -/
def names? : RemoteCall → Option (List String)
  | setServiceGroups _ _ groups => some groups
  | deleteServiceGroups _ _ groups => some groups
  | setServiceCategories _ _ categories => some categories
  | deleteServiceCategories _ _ categories => some categories
  | _ => none

/-- The values of the command of a change: its arguments, and its names as one value. -/
def fields (r : RemoteCall) : List String := r.values ++ (r.names?.map joinNames).toList

/-- There are names if the change has a list of them, and none has a bar in it. -/
def SeparableNames (r : RemoteCall) : Prop :=
  ∀ names ∈ r.names?, names ≠ [] ∧ ∀ name ∈ names, '|' ∉ name.toList

/-- No argument has a semicolon in it, and no name a bar. -/
def Separable (r : RemoteCall) : Prop :=
  (∀ field ∈ r.fields, ';' ∉ field.toList) ∧ r.SeparableNames

variable {r : RemoteCall} {command : Command}

lemma fields_ne_nil : r.fields ≠ [] := by
  cases r <;> simp [fields, values]

/-- A change puts its arguments one after the other. -/
lemma values_eq (h : r.mutation? = some command) : command.values = joinValues r.fields := by
  cases r <;> cases h <;> rfl

/-- Splitting the values of a change gives its arguments exactly if none has a semicolon in it. -/
lemma splitText_values_iff (h : r.mutation? = some command) :
    splitText ';' command.values = r.fields ↔ ∀ field ∈ r.fields, ';' ∉ field.toList := by
  rw [values_eq h]
  exact splitText_intercalate_iff fields_ne_nil

/-- A change with the names of its list as they are read back. -/
def reread : RemoteCall → RemoteCall
  | setServiceGroups host name groups =>
    setServiceGroups host name (splitText '|' (joinNames groups))
  | deleteServiceGroups host name groups =>
    deleteServiceGroups host name (splitText '|' (joinNames groups))
  | setServiceCategories host name categories =>
    setServiceCategories host name (splitText '|' (joinNames categories))
  | deleteServiceCategories host name categories =>
    deleteServiceCategories host name (splitText '|' (joinNames categories))
  | r => r.asSent

/-- The values of a change describe it, up to the names of its list. -/
lemma ofValues?_fields (h : r.mutation? = some command) :
    ofValues? command.object command.action r.fields = some r.reread := by
  cases r <;> cases h <;> rfl

/-- Only as many values as a change has describe one of its action. -/
lemma length_of_ofValues?_eq_some {values : List String} {q : RemoteCall}
    (h : r.mutation? = some command)
    (hq : ofValues? command.object command.action values = some q) :
    values.length = r.fields.length := by
  cases r <;> cases h <;>
    · simp only [onService, onGroup, serviceObject, groupObject, ofValues?] at hq
      exact length_of_exactly? hq

/-- Names are read back exactly if no name has a bar in it, and there is a name. -/
lemma reread_eq_asSent_iff : r.reread = r.asSent ↔ r.SeparableNames := by
  have hnames : ∀ names : List String, splitText '|' (joinNames names) = names ↔
      names ≠ [] ∧ ∀ name ∈ names, '|' ∉ name.toList := by
    intro names
    by_cases hne : names = []
    · subst hne
      exact iff_of_false (by decide) (fun h => h.1 rfl)
    · rw [and_iff_right hne]
      exact splitText_intercalate_iff hne
  cases r <;> simp [reread, asSent, SeparableNames, names?, hnames]

/-- **Reading back.** The command of a change describes it to who splits its values exactly if no
argument has a semicolon in it, and no name a bar. -/
theorem change?_eq_some_iff (h : r.mutation? = some command) :
    command.change? = some r.asSent ↔ r.Separable := by
  rw [Separable, ← splitText_values_iff h, ← reread_eq_asSent_iff]
  constructor
  · intro hread
    have hlength : (splitText ';' command.values).length = r.fields.length :=
      length_of_ofValues?_eq_some h hread
    have hsplit : splitText ';' command.values = r.fields := by
      rw [splitText_values_iff h]
      rw [values_eq h] at hlength
      exact (length_splitText_intercalate_iff fields_ne_nil).1 hlength
    rw [Command.change?, hsplit, ofValues?_fields h] at hread
    exact ⟨hsplit, Option.some.inj hread⟩
  · rintro ⟨hsplit, hreread⟩
    rw [Command.change?, hsplit, ofValues?_fields h, hreread]

/-- A change that reads back shares its command with no other, if the names of the other are
separable. -/
theorem asSent_eq_of_mutation?_eq {r' : RemoteCall} (h : r.mutation? = some command)
    (h' : r'.mutation? = some command) (hr : r.Separable) (hr' : r'.SeparableNames) :
    r'.asSent = r.asSent := by
  have hread := (change?_eq_some_iff h).2 hr
  have hlength : (splitText ';' (joinValues r'.fields)).length = r'.fields.length := by
    rw [← values_eq h']
    exact length_of_ofValues?_eq_some h' hread
  have hread' : command.change? = some r'.asSent :=
    (change?_eq_some_iff h').2 ⟨(length_splitText_intercalate_iff fields_ne_nil).1 hlength, hr'⟩
  exact Option.some.inj (hread'.symm.trans hread)

end RemoteCall

/-! ## What a change posts -/

namespace Session

variable {c : ClapiConnection} {command : Command} {token after : Option String}
  {es fs : List HttpExchange} {r : RemoteCall} {body : HttpBody}

/-- A change may post this, in some session and whatever the platform answers. -/
def Posts (r : RemoteCall) (body : HttpBody) : Prop :=
  r.mutation? ≠ none ∧ ∃ (c : ClapiConnection) (token after : Option String)
    (es : List HttpExchange) (result : Except Failure r.Reply),
    Says (call c r) token es result after ∧ ∃ e ∈ es, e.isSending = true ∧ e.call.body = body

/-- Nothing but this command is sent. -/
def SendsOnly (command : Command) (es : List HttpExchange) : Prop :=
  ∀ e ∈ es, e.isSending = true → e.call.body = .json command.toJson

private lemma SendsOnly.append (hes : SendsOnly command es) (hfs : SendsOnly command fs) :
    SendsOnly command (es ++ fs) :=
  fun e he => (List.mem_append.1 he).elim (hes e) (hfs e)

private lemma TriesLogin.sendsOnly (h : TriesLogin c es) : SendsOnly command es := by
  cases h with
  | nowhere => simp [SendsOnly]
  | request => simp [SendsOnly]

private lemma Says.sendsOnly_of_postCommand {k : String}
    {result : Except Failure (HttpStatus × String)}
    (h : Says (postCommand c k command) token es result after) : SendsOnly command es := by
  obtain ⟨-, ⟨-, rfl, -⟩ | ⟨a, reply, -, -, rfl, -⟩⟩ := h.of_postCommand
  · simp [SendsOnly]
  · simp [SendsOnly, Command.request]

/-- Running a command sends nothing else. -/
lemma Says.sendsOnly {result : Except Failure (List Json)}
    (h : Says (Session.run c command) token es result after) : SendsOnly command es := by
  obtain ⟨result', h⟩ := h.exchange_of_run
  have hopens : ∀ {fs : List HttpExchange} {k : Except Failure String} {u : Option String},
      Says (Session.token c) token fs k u → SendsOnly command fs := by
    intro fs k u hopen
    obtain ⟨⟨-, rfl⟩ | ⟨-, htries⟩, -, -⟩ := hopen.of_token
    · simp [SendsOnly]
    · exact htries.sendsOnly
  rw [Session.exchange] at h
  rcases h.of_bind with ⟨e, -, hopen⟩ | ⟨k, u, es₁, es₂, rfl, hopen, h⟩
  · exact hopens hopen
  refine (hopens hopen).append ?_
  rcases h.of_bind with ⟨e, -, hpost⟩ | ⟨first, v, es₃, es₄, rfl, hpost, h⟩
  · exact hpost.sendsOnly_of_postCommand
  refine hpost.sendsOnly_of_postCommand.append ?_
  by_cases hrefused : first.1 = .unauthorized
  · rw [if_pos hrefused] at h
    rcases h.of_bind with ⟨e, -, hrenew⟩ | ⟨new, w, es₅, es₆, rfl, hrenew, hagain⟩
    · exact hrenew.of_renewToken.2.1.sendsOnly
    · exact hrenew.of_renewToken.2.1.sendsOnly.append hagain.sendsOnly_of_postCommand
  · rw [if_neg hrefused] at h
    obtain ⟨rfl, -, -⟩ := h.of_pure
    simp [SendsOnly]

/-- A change runs its command. -/
lemma Says.run_of_call {result : Except Failure r.Reply} (h : Says (call c r) token es result after)
    (hr : r.mutation? = some command) :
    ∃ result', Says (Session.run c command) token es result' after := by
  have hmutate : ∀ {result : Except Failure Unit}, Says (mutate c r) token es result after →
      ∃ result', Says (Session.run c command) token es result' after := by
    intro result h
    rw [mutate, hr] at h
    rcases h.of_bind with ⟨e, -, hrun⟩ | ⟨rows, u, es₁, es₂, rfl, hrun, hend⟩
    · exact ⟨_, hrun⟩
    · obtain ⟨rfl, -, rfl⟩ := hend.of_pure
      exact ⟨_, by rwa [List.append_nil]⟩
  cases r with
  | getService host name => cases hr
  | getGroup name => cases hr
  | _ => exact hmutate h

/-- A command for which there is a token is posted. -/
private lemma says_postCommand {a : Address} {k : String} (ha : c.address? = some a)
    (hk : isHeaderValue k = true) :
    Says (postCommand c k command) token [⟨command.request a k, .timedOut⟩]
      (.error (.timeout c.settings.baseUrl)) token := by
  have hsend : Says (send c (command.request a k)) token [⟨command.request a k, .timedOut⟩]
      (.error (.timeout c.settings.baseUrl)) token :=
    Program.says_trace (fun _ s => (HttpReply.timedOut, s))
      ((ExceptT.run (send c (command.request a k))).run token) ()
  rw [ClapiConnection.address?] at ha
  simp only [postCommand, post, ha, Option.elim_some, hk]
  exact hsend

/-- A change for which there is a token posts its command. -/
private lemma says_call {a : Address} {k : String} (ha : c.address? = some a)
    (hk : isHeaderValue k = true) (hr : r.mutation? = some command) :
    ∃ result, Says (call c r) (some k) [⟨command.request a k, .timedOut⟩] result (some k) := by
  have htoken : Says (Session.token c) (some k) [] (.ok k) (some k) :=
    Program.says_trace (fun _ s => (HttpReply.timedOut, s))
      ((ExceptT.run (Session.token c)).run _) ()
  have hexchange : Says (Session.exchange c command) (some k) [⟨command.request a k, .timedOut⟩]
      (.error (.timeout c.settings.baseUrl)) (some k) := by
    rw [Session.exchange]
    exact htoken.bind_ok (says_postCommand ha hk).bind_error
  have hrun : Says (Session.run c command) (some k) [⟨command.request a k, .timedOut⟩]
      (.error (.timeout c.settings.baseUrl)) (some k) := by
    rw [Session.run]
    exact hexchange.bind_error
  have hmutate : Says (mutate c r) (some k) [⟨command.request a k, .timedOut⟩]
      (.error (.timeout c.settings.baseUrl)) (some k) := by
    rw [mutate, hr]
    exact hrun.bind_error
  cases r with
  | getService host name => cases hr
  | getGroup name => cases hr
  | _ => exact ⟨_, hmutate⟩

/-- **What is posted.** A change posts its command and nothing else. -/
theorem posts_iff : Posts r body ↔
    ∃ command, r.mutation? = some command ∧ body = .json command.toJson := by
  constructor
  · rintro ⟨hr, c, token, after, es, result, h, e, he, hsending, rfl⟩
    obtain ⟨command, hcommand⟩ := Option.ne_none_iff_exists'.1 hr
    obtain ⟨result', hrun⟩ := h.run_of_call hcommand
    exact ⟨command, hcommand, hrun.sendsOnly e he hsending⟩
  · rintro ⟨command, hcommand, rfl⟩
    let c : ClapiConnection := ⟨⟨"http://centreon", false, 20, none⟩, ⟨"admin", "secret"⟩⟩
    have haddress : c.address?.isSome = true := by decide +kernel
    obtain ⟨a, ha⟩ := Option.isSome_iff_exists.1 haddress
    obtain ⟨result, hsays⟩ := says_call ha (by decide : isHeaderValue "t" = true) hcommand
    exact ⟨by simp [hcommand], c, _, _, _, result, hsays, _, List.mem_singleton_self _, rfl, rfl⟩

/-- **Values.** What a change posts is read back as that change, by who splits its values at
semicolons and its list of names at bars, exactly if no argument has a semicolon in it, and no name
a bar. No other change posts the same then, whatever its arguments are, as long as its names are
told apart.

**Proof sketch.** Joining texts adds one separator between any two of them, so splitting gives as
many parts as there were texts exactly if none of them has a separator in it; and the action tells
how many there were. -/
theorem reads_back_iff (h : Posts r body) :
    (body.change? = some r.asSent ↔ r.Separable) ∧
      (r.Separable → ∀ r' : RemoteCall, Posts r' body → r'.SeparableNames →
        r'.asSent = r.asSent) := by
  obtain ⟨command, hcommand, rfl⟩ := posts_iff.1 h
  rw [HttpBody.change?_json]
  refine ⟨RemoteCall.change?_eq_some_iff hcommand, fun hr r' h' hr' => ?_⟩
  obtain ⟨command', hcommand', hbody⟩ := posts_iff.1 h'
  have hsame : command = command' := by
    have hread := congrArg Command.ofJson? (HttpBody.json.inj hbody)
    rw [Command.ofJson?_toJson, Command.ofJson?_toJson] at hread
    exact Option.some.inj hread
  exact RemoteCall.asSent_eq_of_mutation?_eq hcommand (hsame ▸ hcommand') hr hr'

/-- A macro whose value has blanks and bars in it reads back. -/
theorem reads_back_iff_macro :
    let r := RemoteCall.setServiceMacro "h" "n" (.direct "WARN" "a | b")
    let body := HttpBody.json
      (Command.onService "setmacro" ["h", "n", "WARN", "a | b", "0", ""]).toJson
    Posts r body ∧ body.change? = some r := by
  intro r body
  have hposts : Posts r body := posts_iff.2 ⟨_, rfl, rfl⟩
  have hseparable : r.Separable := ⟨by decide, nofun⟩
  exact ⟨hposts, (reads_back_iff hposts).1.2 hseparable⟩

/-- A comment with a semicolon does not read back: what is posted is also posted by a change of
another service, whose name has the semicolon in it. -/
theorem semicolon_shifts_arguments :
    let r := RemoteCall.setServiceParam "h" "n" "comment" "a;b"
    let r' := RemoteCall.setServiceParam "h" "n;comment" "a" "b"
    r ≠ r' ∧ ∃ body, Posts r body ∧ Posts r' body ∧ body.change? ≠ some r := by
  intro r r'
  let command := Command.onService "setparam" ["h", "n", "comment", "a;b"]
  have hcommand' : r'.mutation? = some command := by decide
  refine ⟨by decide, .json command.toJson, posts_iff.2 ⟨command, rfl, rfl⟩,
    posts_iff.2 ⟨command, hcommand', rfl⟩, ?_⟩
  have hparts : (splitText ';' command.values).length = 5 := by decide
  rw [HttpBody.change?_json]
  intro hread
  have hlength := RemoteCall.length_of_ofValues?_eq_some (r := r) rfl hread
  rw [hparts] at hlength
  cases hlength

end Session

end MonitorSync
