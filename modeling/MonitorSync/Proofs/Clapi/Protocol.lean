import MonitorSync.Http.Script
import MonitorSync.Proofs.Clapi.Session
set_option autoImplicit false

/-!
# The protocol of a session

A session that runs commands one after the other keeps to a protocol, whatever the platform answers:
it logs in before it sends anything, sends every command with the token granted last, and sends it
again only after it was refused and a new token was granted.

## Main definitions

* `Session.Dialogue` — the exchanges that a command can have.
* `Session.history` — the commands that a session runs, each with its exchanges.
* `CommandRecord.FollowsProtocol` — what the protocol asks of a command.

## Main results

* `Session.Says.dialogue` — a command has no other exchanges.
* `Session.history_follows_protocol` — every command of a session follows the protocol.
-/

namespace MonitorSync

namespace Session

/-! ## A single command -/

/-- What is sent when a command was refused, by the token that the next login grants: nothing
without one that may stand in a header. -/
inductive Resent (a : Address) (command : Command) : Option String → List HttpExchange → Prop
  | locked : Resent a command none []
  | withheld {token : String} (h : isHeaderValue token = false) : Resent a command (some token) []
  | sent {token : String} (h : isHeaderValue token = true) (reply : HttpReply) :
    Resent a command (some token) [⟨command.request a token, reply⟩]

/-- The exchanges of a command for which there is a token. -/
inductive Sent (c : ClapiConnection) (a : Address) (command : Command) (token : String) :
    List HttpExchange → Prop
  | withheld (h : isHeaderValue token = false) : Sent c a command token []
  | answered (h : isHeaderValue token = true) {reply : HttpReply}
    (hreply : reply.isRefusal = false) : Sent c a command token [⟨command.request a token, reply⟩]
  | refused (h : isHeaderValue token = true) {reply login : HttpReply} {again : List HttpExchange}
    (hreply : reply.isRefusal = true) (hagain : Resent a command login.token? again) :
    Sent c a command token
      (⟨command.request a token, reply⟩ :: ⟨c.loginRequest a, login⟩ :: again)

/-- The exchanges of a command, by the token that is kept before it: without one, the session logs
in first. -/
inductive Dialogue (c : ClapiConnection) (a : Address) (command : Command) :
    Option String → List HttpExchange → Prop
  | kept {token : String} {es : List HttpExchange} (h : Sent c a command token es) :
    Dialogue c a command (some token) es
  | locked {login : HttpReply} (h : login.token? = none) :
    Dialogue c a command none [⟨c.loginRequest a, login⟩]
  | opened {login : HttpReply} {token : String} {es : List HttpExchange}
    (h : login.token? = some token) (hsent : Sent c a command token es) :
    Dialogue c a command none (⟨c.loginRequest a, login⟩ :: es)

section Command

variable {c : ClapiConnection} {a : Address} {command : Command} {token after : Option String}
  {es : List HttpExchange}

/-- Where there is an address, logging in is a request. -/
lemma TriesLogin.exists_reply (h : TriesLogin c es) (ha : c.address? = some a) :
    ∃ reply, es = [⟨c.loginRequest a, reply⟩] := by
  cases h with
  | nowhere hnone =>
    rw [ha] at hnone
    cases hnone
  | request hsome reply =>
    rw [ha] at hsome
    cases hsome
    exact ⟨reply, rfl⟩

/-- A request gives a response only if it was answered by this one. -/
lemma eq_response_of_received {reply : HttpReply} {response : HttpStatus × String}
    (h : c.received reply = .ok response) : reply = .response response.1 response.2 := by
  cases reply with
  | response status text =>
    cases h
    rfl
  | timedOut => cases h
  | broken reason => cases h

/-- A new token after a refusal. -/
private lemma resent_of_renewal {result : Except Failure (HttpStatus × String)}
    (h : Says (renewToken c >>= fun new => postCommand c new command) token es result after)
    (ha : c.address? = some a) :
    ∃ login again, es = ⟨c.loginRequest a, login⟩ :: again ∧ after = (lastGranted es).or token ∧
      Resent a command login.token? again := by
  rcases h.of_bind with ⟨e, -, hrenew⟩ | ⟨new, u, es₁, es₂, rfl, hrenew, hpost⟩
  · obtain ⟨rfl, htries, hgranted⟩ := hrenew.of_renewToken
    obtain ⟨login, rfl⟩ := htries.exists_reply ha
    have hlocked : login.token? = none := by simpa [Except.toOption, eq_comm] using hgranted
    exact ⟨login, [], rfl, rfl, hlocked ▸ .locked⟩
  · obtain ⟨rfl, htries, hgranted⟩ := hrenew.of_renewToken
    obtain ⟨login, rfl⟩ := htries.exists_reply ha
    have hnew : login.token? = some new := by simpa [Except.toOption, eq_comm] using hgranted
    obtain ⟨rfl, ⟨hnot, rfl, -⟩ | ⟨a', reply, ha', hvalue, rfl, -⟩⟩ := hpost.of_postCommand
    · have hvalue : isHeaderValue new = false := by simpa [ha] using hnot
      exact ⟨login, [], rfl, by simp, hnew ▸ .withheld hvalue⟩
    · obtain rfl : a = a' := Option.some.inj (ha.symm.trans ha')
      exact ⟨login, _, rfl, by simp, hnew ▸ .sent hvalue reply⟩

/-- A command for which there is a token is sent, and once more after a refusal. -/
private lemma sent_of_token {k : String} {result : Except Failure (HttpStatus × String)}
    (h : Says (postCommand c k command >>= fun first =>
      if first.1 = .unauthorized then renewToken c >>= fun new => postCommand c new command
      else pure first) token es result after) (ha : c.address? = some a) :
    after = (lastGranted es).or token ∧ Sent c a command k es := by
  rcases h.of_bind with ⟨e, -, hpost⟩ | ⟨first, u, es₁, es₂, rfl, hpost, hrest⟩
  · obtain ⟨rfl, ⟨hnot, rfl, -⟩ | ⟨a', reply, ha', hvalue, rfl, hreply⟩⟩ := hpost.of_postCommand
    · exact ⟨rfl, .withheld (by simpa [ha] using hnot)⟩
    · obtain rfl : a = a' := Option.some.inj (ha.symm.trans ha')
      refine ⟨by simp, .answered hvalue ?_⟩
      cases reply with
      | response status text => cases hreply
      | timedOut => rfl
      | broken reason => rfl
  · obtain ⟨rfl, ⟨-, -, e, he⟩ | ⟨a', reply, ha', hvalue, rfl, hreply⟩⟩ := hpost.of_postCommand
    · cases he
    obtain rfl : a = a' := Option.some.inj (ha.symm.trans ha')
    obtain rfl := eq_response_of_received hreply.symm
    by_cases hrefusal : first.1 = .unauthorized
    · rw [if_pos hrefusal] at hrest
      obtain ⟨login, again, rfl, rfl, hagain⟩ := resent_of_renewal hrest ha
      refine ⟨by simp, .refused hvalue ?_ hagain⟩
      exact decide_eq_true hrefusal
    · rw [if_neg hrefusal] at hrest
      obtain ⟨rfl, -, rfl⟩ := hrest.of_pure
      exact ⟨by simp, .answered hvalue (decide_eq_false hrefusal)⟩

/-- Reading the rows of the answer says nothing more. -/
lemma Says.exchange_of_run {result : Except Failure (List Json)}
    (h : Says (Session.run c command) token es result after) :
    ∃ result', Says (Session.exchange c command) token es result' after := by
  rw [Session.run] at h
  rcases h.of_bind with ⟨e, -, hexchange⟩ | ⟨⟨status, text⟩, u, es₁, es₂, rfl, hexchange, hread⟩
  · exact ⟨_, hexchange⟩
  · have hend : es₂ = [] ∧ after = u := by
      cases hsuccess : status.isSuccess with
      | false =>
        simp only [hsuccess] at hread
        obtain ⟨rfl, -, rfl⟩ := hread.of_throw
        exact ⟨rfl, rfl⟩
      | true =>
        cases hrows : resultRows? text with
        | none =>
          simp only [hsuccess, hrows] at hread
          obtain ⟨rfl, -, rfl⟩ := hread.of_throw
          exact ⟨rfl, rfl⟩
        | some rows =>
          simp only [hsuccess, hrows] at hread
          obtain ⟨rfl, -, rfl⟩ := hread.of_pure
          exact ⟨rfl, rfl⟩
    obtain ⟨rfl, rfl⟩ := hend
    exact ⟨_, by rwa [List.append_nil]⟩

/-- **Dialogues.** Where there is an address, a command has no other exchanges than these, and the
token granted last is kept. -/
theorem Says.dialogue {result : Except Failure (List Json)}
    (h : Says (Session.run c command) token es result after) (ha : c.address? = some a) :
    after = (lastGranted es).or token ∧ Dialogue c a command token es := by
  obtain ⟨result', hexchange⟩ := h.exchange_of_run
  rw [Session.exchange] at hexchange
  rcases hexchange.of_bind with ⟨e, -, hopen⟩ | ⟨k, u, es₁, es₂, rfl, hopen, hsend⟩
  · obtain ⟨hes, rfl, hresult⟩ := hopen.of_token
    have hnone : (lastGranted es).or token = none := hresult.symm
    obtain ⟨hgranted, rfl⟩ := Option.or_eq_none_iff.1 hnone
    refine ⟨rfl, ?_⟩
    rcases hes with ⟨hkept, -⟩ | ⟨-, htries⟩
    · exact absurd rfl hkept
    obtain ⟨login, rfl⟩ := htries.exists_reply ha
    exact .locked (by simpa using hgranted)
  · obtain ⟨hes, rfl, hresult⟩ := hopen.of_token
    have hk : (lastGranted es₁).or token = some k := hresult.symm
    obtain ⟨rfl, hsent⟩ := sent_of_token hsend ha
    refine ⟨by rw [lastGranted_append, Option.or_assoc], ?_⟩
    rcases hes with ⟨-, rfl⟩ | ⟨rfl, htries⟩
    · obtain rfl : token = some k := hk
      exact .kept hsent
    · obtain ⟨login, rfl⟩ := htries.exists_reply ha
      exact .opened (by simpa using hk) hsent

/-- Where there is no address, a session that keeps no token says nothing. -/
theorem Says.silent {result : Except Failure (List Json)}
    (h : Says (Session.run c command) none es result after) (ha : c.address? = none) :
    es = [] ∧ after = none := by
  obtain ⟨result', hexchange⟩ := h.exchange_of_run
  rw [Session.exchange] at hexchange
  have hlogin : ∀ {es₁ : List HttpExchange} {r : Except Failure String} {u : Option String},
      Says (Session.token c) none es₁ r u → es₁ = [] ∧ u = none ∧ r.toOption = none := by
    intro es₁ r u h
    obtain ⟨⟨hkept, -⟩ | ⟨-, htries⟩, rfl, hresult⟩ := h.of_token
    · exact absurd rfl hkept
    cases htries with
    | nowhere => exact ⟨rfl, rfl, hresult⟩
    | request hsome =>
      rw [ha] at hsome
      cases hsome
  rcases hexchange.of_bind with ⟨e, -, hopen⟩ | ⟨k, u, es₁, es₂, rfl, hopen, -⟩
  · obtain ⟨rfl, rfl, -⟩ := hlogin hopen
    exact ⟨rfl, rfl⟩
  · obtain ⟨-, -, hnone⟩ := hlogin hopen
    cases hnone

end Command

end Session

/-! ## The protocol -/

/-- A command that a session ran. -/
structure CommandRecord where
  command : Command
  exchanges : List HttpExchange
  /-- The token that is kept after it. -/
  after : Option String

namespace CommandRecord

/-- The exchanges in which the command was sent. -/
def sent (r : CommandRecord) : List HttpExchange := r.exchanges.filter HttpExchange.isSending

/-- The token that a command has when it is first sent, after the exchanges `past`: the one granted
last, or else the one that its own login grants. -/
def openingToken (past : List HttpExchange) (r : CommandRecord) : Option String :=
  (lastGranted past).or (r.exchanges.head?.bind HttpExchange.granted?)

/-- The first answer to the command is a refusal, and the login that follows grants a token that may
stand in a header. -/
def Renewed (r : CommandRecord) : Prop :=
  ∃ opening refused login rest token, r.exchanges = opening ++ refused :: login :: rest ∧
    (∀ e ∈ opening, e.isSending = false) ∧ refused.isSending = true ∧ refused.isRefused = true ∧
    login.granted? = some token ∧ isHeaderValue token = true

/-- What the protocol asks of a command, after the exchanges `past` of the commands before it. -/
structure FollowsProtocol (c : ClapiConnection) (past : List HttpExchange) (r : CommandRecord) :
    Prop where
  /-- Every request is a login, or sends the command with the token that was granted last. -/
  request : ∀ before e rest, r.exchanges = before ++ e :: rest → ∃ a, c.address? = some a ∧
    (e.call = c.loginRequest a ∨ ∃ token, lastGranted (past ++ before) = some token ∧
      e.call = r.command.request a token)
  /-- Without a token, there is a login first, if there is an address. -/
  login_of_locked : lastGranted past = none → ∀ a, c.address? = some a →
    ∃ login rest, r.exchanges = ⟨c.loginRequest a, login⟩ :: rest
  /-- The command is sent if there is a token that may stand in a header, -/
  sent_iff : r.sent ≠ [] ↔
    ∃ token, r.openingToken past = some token ∧ isHeaderValue token = true
  /-- and sent again exactly if it was refused and a new token is granted, -/
  sent_twice_iff : r.sent.length = 2 ↔ r.Renewed
  /-- but never once more. -/
  sent_le_two : r.sent.length ≤ 2
  /-- A first refusal is followed by a login. -/
  login_of_refused : ∀ before e rest, r.exchanges = before ++ e :: rest →
    (∀ e ∈ before, e.isSending = false) → e.isSending = true → e.isRefused = true →
    ∃ a login again, c.address? = some a ∧ rest = ⟨c.loginRequest a, login⟩ :: again
  /-- Any other answer to the command is the end of it. -/
  end_of_answered : ∀ before e rest, r.exchanges = before ++ e :: rest → e.isSending = true →
    e.isRefused = false → rest = []
  /-- The token granted last is kept: a login that grants none changes nothing. -/
  kept : r.after = lastGranted (past ++ r.exchanges)

end CommandRecord

section Protocol

variable {c : ClapiConnection} {a : Address} {command : Command} {past es : List HttpExchange}

/-- A fact about every entry of a list and its surroundings, entry by entry. -/
private lemma forall_split_cons {E : Type} {P : List E → E → List E → Prop} {x : E} {xs : List E}
    (hx : P [] x xs) (hxs : ∀ before e rest, xs = before ++ e :: rest → P (x :: before) e rest) :
    ∀ before e rest, x :: xs = before ++ e :: rest → P before e rest := by
  intro before e rest h
  rcases List.cons_eq_append_iff.1 h with ⟨rfl, hlast⟩ | ⟨before, rfl, hmore⟩
  · cases hlast
    exact hx
  · exact hxs before e rest hmore

private lemma forall_split_nil {E : Type} {P : List E → E → List E → Prop} :
    ∀ before e rest, [] = before ++ e :: rest → P before e rest := by
  intro before e rest h
  simp at h

open CommandRecord Session

/-- A command that is sent first is renewed by what comes right after it. -/
private lemma renewed_cons_of_sending {e : HttpExchange} {after : Option String}
    (he : e.isSending = true) :
    Renewed ⟨command, e :: es, after⟩ ↔ e.isRefused = true ∧ ∃ login rest token,
      es = login :: rest ∧ login.granted? = some token ∧ isHeaderValue token = true := by
  constructor
  · rintro ⟨opening, refused, login, rest, token, hes, hopening, -, hrefused, hgranted, hvalue⟩
    rcases List.cons_eq_append_iff.1 hes with ⟨rfl, hlast⟩ | ⟨before, rfl, -⟩
    · cases hlast
      exact ⟨hrefused, login, rest, token, rfl, hgranted, hvalue⟩
    · rw [hopening e List.mem_cons_self] at he
      cases he
  · rintro ⟨hrefused, login, rest, token, rfl, hgranted, hvalue⟩
    exact ⟨[], e, login, rest, token, rfl, nofun, he, hrefused, hgranted, hvalue⟩

/-- What is said before the command is sent does not renew it. -/
private lemma renewed_cons_of_login {login : HttpReply} {after : Option String} :
    Renewed ⟨command, ⟨c.loginRequest a, login⟩ :: es, after⟩ ↔ Renewed ⟨command, es, after⟩ := by
  constructor
  · rintro ⟨opening, refused, next, rest, token, hes, hopening, hsending, hrest⟩
    rcases List.cons_eq_append_iff.1 hes with ⟨rfl, hlast⟩ | ⟨before, rfl, hmore⟩
    · cases hlast
      cases hsending
    · exact ⟨before, refused, next, rest, token, hmore,
        fun e he => hopening e (List.mem_cons_of_mem _ he), hsending, hrest⟩
  · rintro ⟨opening, refused, next, rest, token, rfl, hopening, hrest⟩
    refine ⟨_ :: opening, refused, next, rest, token, rfl, ?_, hrest⟩
    exact List.forall_mem_cons.2 ⟨rfl, hopening⟩

/-- A command is sent again if a token is granted that may stand in a header, and not otherwise. -/
private lemma resent_cases {granted : Option String} (h : Resent a command granted es) :
    (es = [] ∧ ∀ token, granted = some token → isHeaderValue token = false) ∨
      ∃ token reply, granted = some token ∧ isHeaderValue token = true ∧
        es = [⟨command.request a token, reply⟩] := by
  cases h with
  | locked => exact .inl ⟨rfl, nofun⟩
  | withheld hvalue =>
    refine .inl ⟨rfl, ?_⟩
    rintro _ ⟨⟩
    exact hvalue
  | sent hvalue reply => exact .inr ⟨_, reply, rfl, hvalue, rfl⟩

/-- A command that was refused is renewed if the login after it grants a token that may stand in a
header. -/
private lemma renewed_of_refused {k : String} {reply login : HttpReply} {after : Option String}
    (hreply : reply.isRefusal = true) :
    Renewed ⟨command, ⟨command.request a k, reply⟩ :: ⟨c.loginRequest a, login⟩ :: es, after⟩ ↔
      ∃ token, login.token? = some token ∧ isHeaderValue token = true := by
  rw [renewed_cons_of_sending rfl]
  constructor
  · rintro ⟨-, _, _, token, hes, hgranted⟩
    cases hes
    exact ⟨token, hgranted⟩
  · rintro ⟨token, hgranted⟩
    exact ⟨hreply, _, _, token, rfl, hgranted⟩

/-- The token that is kept is the one that a command has when it is first sent. -/
private lemma openingToken_of_kept {k : String} {after : Option String}
    (hk : lastGranted past = some k) : openingToken past ⟨command, es, after⟩ = some k := by
  rw [openingToken, hk, Option.some_or]

/-- To say nothing is right with a token that may not stand in a header, or without an address. -/
private lemma follows_of_nil (h : ∀ k, lastGranted past = some k → isHeaderValue k = false)
    (hnone : lastGranted past = none → c.address? = none) :
    FollowsProtocol c past ⟨command, [], lastGranted past⟩ where
  request := forall_split_nil
  login_of_locked := by
    intro hpast a ha
    rw [hnone hpast] at ha
    cases ha
  sent_iff := by simpa [sent, openingToken] using h
  sent_twice_iff := by simp [sent, Renewed]
  sent_le_two := Nat.zero_le 2
  login_of_refused := forall_split_nil
  end_of_answered := forall_split_nil
  kept := by rw [List.append_nil]

/-- A command for which there is a token follows the protocol. -/
private lemma follows_of_sent {k : String} (h : Sent c a command k es) (ha : c.address? = some a)
    (hk : lastGranted past = some k) :
    FollowsProtocol c past ⟨command, es, lastGranted (past ++ es)⟩ := by
  have hfirst : ∃ a', c.address? = some a' ∧ (command.request a k = c.loginRequest a' ∨
      ∃ token, lastGranted (past ++ []) = some token ∧
        command.request a k = command.request a' token) :=
    ⟨a, ha, .inr ⟨k, by rwa [List.append_nil], rfl⟩⟩
  have hkept : lastGranted past ≠ none := by
    rw [hk]
    exact Option.some_ne_none k
  cases h with
  | withheld hvalue =>
    rw [List.append_nil]
    refine follows_of_nil (fun k' hk' => ?_) fun hpast => absurd hpast hkept
    rw [hk] at hk'
    cases hk'
    exact hvalue
  | @answered hvalue reply hreply =>
    have hanswered : HttpExchange.isRefused ⟨command.request a k, reply⟩ = false := hreply
    exact
      { request := forall_split_cons hfirst forall_split_nil
        login_of_locked := fun hpast => absurd hpast hkept
        sent_iff := by simp [sent, openingToken_of_kept hk, hvalue]
        sent_twice_iff := by
          rw [renewed_cons_of_sending rfl]
          simp [sent, List.filter_cons]
        sent_le_two := by simp [sent, List.filter_cons]
        login_of_refused := forall_split_cons (by simp [hanswered]) forall_split_nil
        end_of_answered := forall_split_cons (fun _ _ => rfl) forall_split_nil
        kept := rfl }
  | @refused hvalue reply login again hreply hagain =>
    have hrefused : HttpExchange.isRefused ⟨command.request a k, reply⟩ = true := hreply
    have hlogin (before : List HttpExchange) : ∃ a', c.address? = some a' ∧
        (c.loginRequest a = c.loginRequest a' ∨ ∃ token, lastGranted (past ++ before) = some token ∧
          c.loginRequest a = command.request a' token) := ⟨a, ha, .inl rfl⟩
    have hnext : ∃ a' login' again', c.address? = some a' ∧
        (⟨c.loginRequest a, login⟩ :: again : List HttpExchange) =
          ⟨c.loginRequest a', login'⟩ :: again' := ⟨a, login, again, ha, rfl⟩
    rcases resent_cases hagain with ⟨rfl, hlocked⟩ | ⟨new, last, hnew, hnewvalue, rfl⟩
    · exact
        { request := forall_split_cons hfirst (forall_split_cons (hlogin _) forall_split_nil)
          login_of_locked := fun hpast => absurd hpast hkept
          sent_iff := by simp [sent, openingToken_of_kept hk, hvalue]
          sent_twice_iff := by
            rw [renewed_of_refused hreply]
            simpa [sent, List.filter_cons] using hlocked
          sent_le_two := by simp [sent, List.filter_cons]
          login_of_refused := forall_split_cons (fun _ _ _ => hnext)
            (forall_split_cons nofun forall_split_nil)
          end_of_answered := forall_split_cons (by simp [hrefused])
            (forall_split_cons nofun forall_split_nil)
          kept := rfl }
    · have hresent : ∃ a', c.address? = some a' ∧ (command.request a new = c.loginRequest a' ∨
          ∃ token, lastGranted (past ++ [⟨command.request a k, reply⟩,
            ⟨c.loginRequest a, login⟩]) = some token ∧
              command.request a new = command.request a' token) :=
        ⟨a, ha, .inr ⟨new, by simp [hnew], rfl⟩⟩
      exact
        { request := forall_split_cons hfirst (forall_split_cons (hlogin _)
            (forall_split_cons hresent forall_split_nil))
          login_of_locked := fun hpast => absurd hpast hkept
          sent_iff := by simp [sent, openingToken_of_kept hk, hvalue]
          sent_twice_iff := by
            rw [renewed_of_refused hreply]
            simp [sent, List.filter_cons, hnew, hnewvalue]
          sent_le_two := by simp [sent, List.filter_cons]
          login_of_refused := forall_split_cons (fun _ _ _ => hnext)
            (forall_split_cons nofun (forall_split_cons (by simp) forall_split_nil))
          end_of_answered := forall_split_cons (by simp [hrefused])
            (forall_split_cons nofun (forall_split_cons (fun _ _ => rfl) forall_split_nil))
          kept := rfl }

/-- What starts with a login at the address does so wherever the address is. -/
private lemma exists_login_of_head {login : HttpReply} (ha : c.address? = some a) :
    ∀ a', c.address? = some a' → ∃ login' rest,
      (⟨c.loginRequest a, login⟩ :: es : List HttpExchange) =
        ⟨c.loginRequest a', login'⟩ :: rest := by
  intro a' ha'
  obtain rfl : a = a' := Option.some.inj (ha.symm.trans ha')
  exact ⟨login, es, rfl⟩

/-- A login before everything else adds nothing but the token that it grants. -/
private lemma follows_of_opened {login : HttpReply} {k : String} {after : Option String}
    (h : FollowsProtocol c (past ++ [⟨c.loginRequest a, login⟩]) ⟨command, es, after⟩)
    (ha : c.address? = some a) (hpast : lastGranted past = none) (hlogin : login.token? = some k) :
    FollowsProtocol c past ⟨command, ⟨c.loginRequest a, login⟩ :: es, after⟩ := by
  have hsent : sent ⟨command, ⟨c.loginRequest a, login⟩ :: es, after⟩ =
      sent ⟨command, es, after⟩ := List.filter_cons_of_neg Bool.false_ne_true
  have hopening : openingToken past ⟨command, ⟨c.loginRequest a, login⟩ :: es, after⟩ =
      openingToken (past ++ [⟨c.loginRequest a, login⟩]) ⟨command, es, after⟩ := by
    simp [openingToken, hpast, hlogin]
  have hrequest := h.request
  have hkept := h.kept
  simp only [List.append_assoc] at hrequest hkept
  exact
    { request := forall_split_cons ⟨a, ha, .inl rfl⟩ hrequest
      login_of_locked := fun _ => exists_login_of_head ha
      sent_iff := by
        rw [hsent, hopening]
        exact h.sent_iff
      sent_twice_iff := by
        rw [hsent, renewed_cons_of_login]
        exact h.sent_twice_iff
      sent_le_two := by
        rw [hsent]
        exact h.sent_le_two
      login_of_refused := forall_split_cons nofun fun before e rest hes hbefore =>
        h.login_of_refused before e rest hes (List.forall_mem_cons.1 hbefore).2
      end_of_answered := forall_split_cons nofun h.end_of_answered
      kept := hkept }

/-- **Commands.** What a command may say follows the protocol. -/
private lemma follows_of_dialogue (h : Dialogue c a command (lastGranted past) es)
    (ha : c.address? = some a) :
    FollowsProtocol c past ⟨command, es, lastGranted (past ++ es)⟩ := by
  generalize hkept : lastGranted past = kept at h
  cases h with
  | kept hsent => exact follows_of_sent hsent ha hkept
  | @locked login hlogin =>
    exact
      { request := forall_split_cons ⟨a, ha, .inl rfl⟩ forall_split_nil
        login_of_locked := fun _ => exists_login_of_head ha
        sent_iff := by simp [sent, openingToken, hkept, hlogin]
        sent_twice_iff := by
          rw [renewed_cons_of_login]
          simp [sent, Renewed]
        sent_le_two := by simp [sent]
        login_of_refused := forall_split_cons nofun forall_split_nil
        end_of_answered := forall_split_cons nofun forall_split_nil
        kept := rfl }
  | @opened login k es hlogin hsent =>
    have hgranted : lastGranted (past ++ [⟨c.loginRequest a, login⟩]) = some k := by
      simp [hlogin]
    have hrest := follows_of_sent hsent ha hgranted
    rw [List.append_assoc] at hrest
    exact follows_of_opened hrest ha hkept hlogin

/-- **Steps.** A command of a session that keeps the token granted last follows the protocol, and
the session goes on to do so. Without an address it never has a token. -/
theorem Session.Says.follows {result : Except Failure (List Json)} {after : Option String}
    (h : Says (Session.run c command) (lastGranted past) es result after)
    (hnone : c.address? = none → lastGranted past = none) :
    FollowsProtocol c past ⟨command, es, after⟩ ∧ (c.address? = none → after = none) := by
  cases ha : c.address? with
  | some a =>
    obtain ⟨rfl, hdialogue⟩ := h.dialogue ha
    refine ⟨?_, nofun⟩
    rw [← lastGranted_append]
    exact follows_of_dialogue hdialogue ha
  | none =>
    have hpast := hnone ha
    rw [hpast] at h
    obtain ⟨rfl, rfl⟩ := h.silent ha
    refine ⟨?_, fun _ => rfl⟩
    rw [← hpast]
    refine follows_of_nil (fun k hk => ?_) fun _ => ha
    rw [hpast] at hk
    cases hk

end Protocol

/-! ## Sessions -/

namespace Session

/-- A session that keeps `token` may run commands with the records `rs`, and keeps `after` then. A
command that fails is not the end of the session. -/
inductive Ran (c : ClapiConnection) :
    Option String → List CommandRecord → Option String → Prop
  | nil (token : Option String) : Ran c token [] token
  | cons {token between after : Option String} {command : Command} {es : List HttpExchange}
    {result : Except Failure (List Json)} {rs : List CommandRecord}
    (h : Says (Session.run c command) token es result between) (hrest : Ran c between rs after) :
    Ran c token (⟨command, es, between⟩ :: rs) after

variable {c : ClapiConnection} {token after : Option String} {rs : List CommandRecord}

/-- **Histories.** In a session that keeps the token granted last, every command follows the
protocol after all the exchanges before it.

**Proof sketch.** Induction on the commands: the token kept after one of them is again the one
granted last. -/
theorem Ran.follows (past : List HttpExchange) (h : Ran c token rs after)
    (htoken : token = lastGranted past) (hnone : c.address? = none → token = none)
    {before rest : List CommandRecord} {r : CommandRecord} (hr : rs = before ++ r :: rest) :
    r.FollowsProtocol c (past ++ before.flatMap CommandRecord.exchanges) := by
  induction h generalizing past before with
  | nil token => simp at hr
  | cons hsays hrest ih =>
    subst htoken
    obtain ⟨hfirst, hstill⟩ := hsays.follows hnone
    rcases List.cons_eq_append_iff.1 hr with ⟨rfl, hlast⟩ | ⟨before, rfl, hmore⟩
    · cases hlast
      simpa using hfirst
    · have hfollows := ih _ hfirst.kept hstill hmore
      rwa [List.append_assoc] at hfollows

section History

variable {σ : Type} (c) (answer : HttpRequest → σ → HttpReply × σ)

/-- The commands that a session runs one after the other, each with its exchanges. A command that
fails is not the end of the session. -/
def history : List Command → Option String → σ → List CommandRecord
  | [], _, _ => []
  | command :: commands, token, s =>
    let work := (ExceptT.run (Session.run c command)).run token
    let reached := Program.run answer work s
    ⟨command, Program.trace answer work s, reached.1.2⟩ ::
      history commands reached.1.2 reached.2

/-- What is recorded of a session is something that it may say. -/
lemma ran_history (commands : List Command) (token : Option String) (s : σ) :
    ∃ after, Ran c token (history c answer commands token s) after := by
  induction commands generalizing token s with
  | nil => exact ⟨token, .nil token⟩
  | cons command commands ih =>
    let work := (ExceptT.run (Session.run c command)).run token
    let reached := Program.run answer work s
    obtain ⟨after, hrest⟩ := ih reached.1.2 reached.2
    exact ⟨after, .cons (Program.says_trace answer work s) hrest⟩

/-- **The protocol.** Whatever the platform answers, every command of a session follows the
protocol: it is sent with the token granted last if there is one, twice at most, and again only if
it was refused and a new token is granted. -/
theorem history_follows_protocol (commands : List Command) (s : σ)
    {before rest : List CommandRecord} {r : CommandRecord}
    (h : history c answer commands none s = before ++ r :: rest) :
    r.FollowsProtocol c (before.flatMap CommandRecord.exchanges) := by
  obtain ⟨after, hran⟩ := ran_history c answer commands none s
  exact hran.follows [] rfl (fun _ => rfl) h

/-- A session with a platform at `centreon` that answers from a script. -/
def scripted (responses : List (HttpStatus × String)) (commands : List Command) :
    List CommandRecord :=
  history ⟨⟨"http://centreon", false, 20, none⟩, ⟨"admin", "secret"⟩⟩ HttpScript.answer commands
    none
    ⟨"centreon", false, responses, []⟩

/-- A command that is refused is sent again with the token of the next login, and the one after it
is sent with that token, too. -/
theorem history_follows_protocol_renewal :
    let rs := scripted [(⟨200⟩, "\x7b\"authToken\":\"t\"\x7d"), (⟨401⟩, ""),
        (⟨200⟩, "\x7b\"authToken\":\"u\"\x7d"), (⟨200⟩, ""), (⟨200⟩, "")]
      [.onService "add" ["h", "n", "t"], .onService "del" ["h", "n"]]
    rs.map (fun r => r.sent.map fun e => e.call.token) = [[some "t", some "u"], [some "u"]] ∧
      ∃ r rest, rs = [] ++ r :: rest ∧
        r.FollowsProtocol ⟨⟨"http://centreon", false, 20, none⟩, ⟨"admin", "secret"⟩⟩ [] := by
  intro rs
  have hrs : rs = [] ++ _ :: _ := rfl
  exact ⟨by decide +kernel, _, _, hrs, history_follows_protocol _ _ _ _ hrs⟩

/-- A token that may not stand in a header is kept, but nothing is sent with it: the command is
refused, the next login grants a token, and the command is not sent again. -/
theorem history_withholds_unfit_token :
    (scripted [(⟨200⟩, "\x7b\"authToken\":\"t\"\x7d"), (⟨401⟩, ""),
        (⟨200⟩, "\x7b\"authToken\":\"a\\nb\"\x7d"), (⟨200⟩, "")]
        [.onService "add" ["h", "n", "t"]]).map
      (fun r => (r.exchanges.map fun e => (e.call.token, e.isRefused, e.granted?), r.after)) =
    [([(none, false, some "t"), (some "t", true, none), (none, false, some "a\nb")],
      some "a\nb")] := by
  decide +kernel

end History

end Session

end MonitorSync
