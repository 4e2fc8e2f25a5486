import GShare.Proofs.Access.Connection

/-! # Which session a request opens

The proxy serves all sessions on one host, and its cookie is sent with every path of that host.
`connect_verify` lets a request through on a cookie or a token of any running session and does not compare that
session with the one the path names. A request therefore opens the session of its own credentials exactly
when the credential that the check goes by happens to be of the session in the path.
-/

namespace GShare.Soundness.SessionAccess

open GShare.Model Accounting Machine Gateway TokenStore Option List

variable {sha256 : String → String} {gateway next : Gateway} {req : ConnectRequest} {now : ℤ}

/-- Nobody forges a cookie or a token: a signed cookie was given out, and a text with the name of a token and
the digest of its secret is that token. -/
@[mk_iff] structure Authentic (sha256 : String → String) (gateway : Gateway) (req : ConnectRequest) :
    Prop where
  cookie : ∀ text ∈ req.cookie, ∀ claims ∈ text.claims?, claims ∈ gateway.cookies
  token : ∀ presented ∈ req.cnxToken, ∀ issued ∈ gateway.issued,
    (splitToken presented).1 = issued.cnxId → sha256 (splitToken presented).2 = sha256 issued.tok →
      presented = tokenText issued.cnxId issued.tok

instance decidableAuthentic : Decidable (Authentic sha256 gateway req) :=
  decidable_of_iff' _ (authentic_iff sha256 gateway req)

section

variable (sha256 gateway)

def AuthenticEvent : GatewayEvent → Prop
  | .request req _ => Authentic sha256 gateway req
  | .session .. | .connections .. | .expired _ => True

instance decidableAuthenticEvent (event : GatewayEvent) :
    Decidable (AuthenticEvent sha256 gateway event) := by
  unfold AuthenticEvent
  split <;> infer_instance

def CarriesCookie (req : ConnectRequest) (sess : SessionId) : Prop :=
  ∃ claims ∈ gateway.cookies, req.cookie = some (.signed claims) ∧ claims.sid = sess

def CarriesToken (req : ConnectRequest) (sess : SessionId) : Prop :=
  ∃ issued ∈ gateway.issued, issued.sessionId = sess ∧
    req.cnxToken = some (tokenText issued.cnxId issued.tok) ∧
    (gateway.tokens.tokens.find? issued.cnxId).isSome

instance decidableCarriesCookie (sess : SessionId) : Decidable (CarriesCookie gateway req sess) :=
  inferInstanceAs (Decidable (∃ claims ∈ gateway.cookies, _))

instance decidableCarriesToken (sess : SessionId) : Decidable (CarriesToken gateway req sess) :=
  inferInstanceAs (Decidable (∃ issued ∈ gateway.issued, _))

/-- A request that is let through was let through for the session in its path: that session runs, and the
request carries a cookie or an unredeemed token of it. -/
def OpensOwn (crName : SessionId → String) (gateway : Gateway) (req : ConnectRequest) (now : ℤ) : Prop :=
  ∀ target, Routed (crName target) req → ∀ sess user cookie,
    (gateway.connectVerify sha256 req now).2 = .ok sess user cookie →
      sess = target ∧ gateway.running target ∧
        (CarriesCookie gateway req target ∨ CarriesToken gateway req target)

/-- The cookie of the request, if it is valid for a running session, is for the session in the path; and if
there is no such cookie, the token is, if it is one of a running session. -/
def CredentialsMatch (crName : SessionId → String) (gateway : Gateway)
    (req : ConnectRequest) (now : ℤ) : Prop :=
  ∀ target, Routed (crName target) req →
    (∀ sid ∈ verifyCookie now req.cookie, gateway.running sid → sid = target) ∧
    ((∀ sid ∈ verifyCookie now req.cookie, gateway.running sid = false) →
      ∀ presented ∈ req.cnxToken, ∀ token ∈ gateway.tokens.matching sha256 presented,
        gateway.running token.record.sessionId → token.record.sessionId = target)

/-- Every token that is stored was given out, for its session and with the secret of its digest. -/
def Backed : Prop :=
  ∀ token ∈ gateway.tokens.tokens.rows, ∃ issued ∈ gateway.issued, issued.cnxId = token.cnxId ∧
    issued.sessionId = token.record.sessionId ∧ token.record.tokenHash = sha256 issued.tok

end

theorem Backed.mono (backed : Backed sha256 gateway) (issued : next.issued = gateway.issued)
    (fewer : ∀ token ∈ next.tokens.tokens.rows, token ∈ gateway.tokens.tokens.rows) : Backed sha256 next := by
  intro token member
  rw [issued]
  exact backed token (fewer token member)

theorem backed_connections {id : SessionId} {input : TokenInput} (backed : Backed sha256 gateway)
    (given : gateway.connections sha256 id input = some next) : Backed sha256 next := by
  unfold connections at given
  split at given
  · cases given
  · rename_i row
    split_ifs at given
    obtain ⟨tokens, wrote, rfl⟩ := map_eq_some_iff.mp given
    obtain ⟨-, -, -, inserted⟩ := hset_eq_some wrote
    have rows := (Roster.insert_eq_some inserted).2
    have said : ∀ token ∈ tokens.tokens.rows, ∃ issued ∈ ⟨input.cnxId, input.tok, id⟩ :: gateway.issued,
        issued.cnxId = token.cnxId ∧ issued.sessionId = token.record.sessionId ∧
          token.record.tokenHash = sha256 issued.tok := by
      rw [rows]
      refine forall_mem_cons.mpr ⟨⟨_, mem_cons_self, rfl, rfl, rfl⟩, fun token member => ?_⟩
      obtain ⟨issued, among, told⟩ := backed token member
      exact ⟨issued, mem_cons_of_mem _ among, told⟩
    intro token member
    obtain ⟨old, before, sameName, sameRecord⟩ := mem_expire member
    rw [← sameName, ← sameRecord]
    exact said old before

theorem backed_step {event : GatewayEvent} (taken : gateway.step sha256 event = some next)
    (backed : Backed sha256 gateway) : Backed sha256 next := by
  cases event with
  | session id row =>
    cases taken
    exact backed
  | connections id input => exact backed_connections backed taken
  | expired cnxId =>
    obtain ⟨tokens, changed, rfl⟩ := map_eq_some_iff.mp taken
    simp only [change] at changed
    split_ifs at changed
    cases changed
    exact backed.mono rfl fun _ member => (Roster.mem_remove.mp member).1
  | request req now =>
    cases taken
    exact backed.mono connectVerify_tokens.1 connectVerify_tokens.2

theorem carriesCookie_of_verify {sess : SessionId} (authentic : Authentic sha256 gateway req)
    (valid : verifyCookie now req.cookie = some sess) : CarriesCookie gateway req sess := by
  unfold verifyCookie at valid
  split at valid
  · rename_i claims carried
    split_ifs at valid
    exact ⟨claims, authentic.cookie _ carried claims rfl, carried, some.inj valid⟩
  · cases valid
  · cases valid

theorem carriesToken_of_matching {presented : String} {token : StoredToken} (backed : Backed sha256 gateway)
    (authentic : Authentic sha256 gateway req) (carried : req.cnxToken = some presented)
    (found : gateway.tokens.matching sha256 presented = some token) :
    CarriesToken gateway req token.record.sessionId := by
  obtain ⟨there, digest⟩ := matching_eq_some_iff.mp found
  obtain ⟨member, named⟩ := Roster.find?_eq_some_iff.mp there
  obtain ⟨issued, among, sameName, sess, secret⟩ := backed token member
  have text := authentic.token presented carried issued among (named.symm.trans sameName.symm)
    (digest.symm.trans secret)
  refine ⟨issued, among, sess, by rw [carried, text], ?_⟩
  rw [sameName, named, there]
  rfl

/-- The gateway before anything was given out. -/
def unopened : Gateway := ⟨fun _ => none, .empty, [], []⟩

/-- After every history of tokens and cookies, and for every request that forges none: it opens only the
session in its path exactly if the credential that the check goes by is of that session. -/
theorem opensOwn_iff_credentialsMatch {events : List GatewayEvent} (crName : SessionId → String)
    (history : Run (step sha256) (AuthenticEvent sha256) unopened events gateway)
    (authentic : Authentic sha256 gateway req) :
    OpensOwn sha256 crName gateway req now ↔ CredentialsMatch sha256 crName gateway req now := by
  have backed : Backed sha256 gateway :=
    history.invariant (forall_mem_nil _) fun _ _ _ _ taken backed => backed_step taken backed
  refine ⟨fun opens target routed => ⟨fun sid valid runs => ?_, fun uncovered presented carried token found
    runs => ?_⟩, fun matched target routed sess user cookie opened => ?_⟩
  · exact (opens target routed sid none none (by rw [connectVerify_of_cookie valid runs])).1
  · refine (opens target routed token.record.sessionId (some token.record.owner)
      (some (makeCookie token.record.sessionId now)) ?_).1
    rw [connectVerify_of_token uncovered]
    exact redeemToken_eq_ok carried found runs
  · obtain ⟨onCookie, onToken⟩ := matched target routed
    obtain ⟨runs, valid | ⟨uncovered, presented, carried, token, found, rfl⟩⟩ :=
      connectVerify_cases opened
    · obtain rfl := onCookie sess valid runs
      exact ⟨rfl, runs, .inl (carriesCookie_of_verify authentic valid)⟩
    · have same := onToken uncovered presented carried token found runs
      exact ⟨same, same ▸ runs, .inr (same ▸ carriesToken_of_matching backed authentic carried found)⟩

def twoNames (sess : SessionId) : String := if sess = 1 then "ses-1" else "ses-2"

def forNotebook (crName : String) (cookie : Option CookieText) (query : List (String × String)) :
    ConnectRequest where
  originalUri := ⟨["proxy", crName, "lab"], query⟩
  cookie := cookie
  token := none
  cnxHeader := none

/-- Two sessions of different owners run, and the owner of the first opens it with a token. -/
def firstOpened : List GatewayEvent :=
  [.session 1 (some ⟨10, .running, false⟩), .session 2 (some ⟨20, .running, false⟩),
    .connections 1 ⟨"cnx_1", "secret"⟩,
    .request (forNotebook "ses-1" none [("gshare_cnx", "cnx_1.secret")]) 0]

/-- The cookie that the owner got. -/
def firstCookie : Option CookieText := some (.signed (makeCookie 1 0))

/-- The next request for the same session goes by the cookie of that session. -/
theorem opensOwn_iff_credentialsMatch_own :
    ∃ gateway, Run (step id) (AuthenticEvent id) unopened firstOpened gateway ∧
      Authentic id gateway (forNotebook "ses-1" firstCookie []) ∧
      (gateway.connectVerify id (forNotebook "ses-1" firstCookie []) second).2 = .ok 1 none none ∧
      (OpensOwn id twoNames gateway (forNotebook "ses-1" firstCookie []) second ↔
        CredentialsMatch id twoNames gateway (forNotebook "ses-1" firstCookie []) second) :=
  exists_run_imp (fun gateway => Authentic id gateway (forNotebook "ses-1" firstCookie []) ∧
      (gateway.connectVerify id (forNotebook "ses-1" firstCookie []) second).2 = .ok 1 none none)
    (by decide +kernel) fun _ history opened =>
      ⟨opened.1, opened.2, opensOwn_iff_credentialsMatch twoNames history opened.1⟩

/-- With the cookie of the first session its owner opens the second one, of which it carries nothing. -/
theorem opens_another_session :
    ∃ gateway, Run (step id) (AuthenticEvent id) unopened firstOpened gateway ∧
      Authentic id gateway (forNotebook "ses-2" firstCookie []) ∧
      Routed (twoNames 2) (forNotebook "ses-2" firstCookie []) ∧
      (gateway.connectVerify id (forNotebook "ses-2" firstCookie []) second).2 = .ok 1 none none ∧
      ¬CarriesCookie gateway (forNotebook "ses-2" firstCookie []) 2 ∧
      ¬CarriesToken gateway (forNotebook "ses-2" firstCookie []) 2 :=
  exists_run_of_execute (by decide +kernel)

end GShare.Soundness.SessionAccess
