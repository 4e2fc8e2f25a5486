import GShare.Accounting.Roster
import GShare.Machine.Calls
import GShare.Model.Session.Callbacks

/-! # Connection tokens, connect cookies and the session proxy

`ConnectionTokenService` keeps the digest of a connection token in a Redis hash; `issue` and `redeem` are cut
at their Redis commands. All sessions are served on one host, each under the paths of its own ingress, and the
proxy asks `connect_verify` about every request: a cookie that the control plane signed lets it through, and
so does a connection token, which is redeemed and answered with such a cookie.
-/

namespace GShare.Model

open Accounting Machine List

structure TokenRecord where
  tokenHash : String
  sessionId : SessionId
  owner : UserId
deriving DecidableEq, Repr

/-- The hash `cnx:{cnx_id}`, and whether it has a time to live. -/
structure StoredToken where
  cnxId : String
  record : TokenRecord
  expires : Bool
deriving DecidableEq, Repr

/-- The hashes, and the names that have been drawn: a name is drawn once. -/
structure TokenStore where
  tokens : Roster StoredToken.cnxId
  drawn : List String
  known : ∀ token ∈ tokens.rows, token.cnxId ∈ drawn

/-- The text of a token: its name, a dot and its secret. -/
def tokenText (cnxId tok : String) : String := cnxId ++ "." ++ tok

/-- `presented.partition(".")`, without the dot. -/
def splitToken (presented : String) : String × String :=
  let chars := presented.toList
  (String.ofList (chars.takeWhile (· != '.')), String.ofList (chars.dropWhile (· != '.')).tail)

namespace TokenStore

def empty : TokenStore := ⟨.empty _, [], forall_mem_nil _⟩

variable (sha256 : String → String) (store : TokenStore)

/-- `hset`, under a new name. -/
def hset (cnxId : String) (record : TokenRecord) : Option TokenStore :=
  if cnxId ∈ store.drawn ∨ '.' ∈ cnxId.toList then none
  else
    match inserted : store.tokens.insert ⟨cnxId, record, false⟩ with
    | none => none
    | some tokens => some
      { tokens := tokens
        drawn := cnxId :: store.drawn
        known := by
          rw [(Roster.insert_eq_some inserted).2]
          exact forall_mem_cons.mpr ⟨mem_cons_self, fun token member =>
            mem_cons_of_mem _ (store.known token member)⟩ }

/-- `expire`: a hash that is there gets a time to live. -/
def expire (cnxId : String) : TokenStore where
  tokens := store.tokens.revise cnxId (fun token => { token with expires := true }) fun _ => rfl
  drawn := store.drawn
  known token member := by
    rcases Roster.mem_revise.mp member with ⟨before, -⟩ | ⟨old, before, -, rfl⟩
    · exact store.known token before
    · exact store.known old before

def delete (cnxId : String) : TokenStore where
  tokens := store.tokens.remove cnxId
  drawn := store.drawn
  known token member := store.known token (Roster.mem_remove.mp member).1

/-- `hgetall`, and the comparison of the digests. -/
def matching (presented : String) : Option StoredToken :=
  (store.tokens.find? (splitToken presented).1).filter
    (·.record.tokenHash == sha256 (splitToken presented).2)

/-- `redeem`, undisturbed. -/
def redeem (presented : String) : TokenStore × Option TokenRecord :=
  match store.matching sha256 presented with
  | none => (store, none)
  | some token => (store.delete token.cnxId, some token.record)

end TokenStore

/-- Where a call of the token service stands between two Redis commands. -/
inductive TokenCall where
  | issue (sessionId : SessionId) (owner : UserId)
  /-- The hash is written; next it gets its time to live. -/
  | stored (cnxId tok : String)
  | issued (token : String)
  | redeem (presented : String)
  /-- The record was read and the digests agree; next the hash is deleted. -/
  | matched (cnxId : String) (record : TokenRecord)
  | redeemed (cnxId : String) (record : TokenRecord)
  | refused

/-- The name and the secret that `issue` draws. -/
structure TokenInput where
  cnxId : String
  tok : String

/-- What Redis and the expiry worker do. -/
inductive TokenChange where
  | expired (cnxId : String)
  /-- `purge_expired` finds a hash without a time to live. -/
  | purged (cnxId : String)

def tokenNext (sha256 : String → String) (store : TokenStore) (call : TokenCall) (input : TokenInput) :
    Option (TokenStore × TokenCall) :=
  match call with
  | .issue sessionId owner =>
    (store.hset input.cnxId ⟨sha256 input.tok, sessionId, owner⟩).map fun store =>
      (store, .stored input.cnxId input.tok)
  | .stored cnxId tok => some (store.expire cnxId, .issued (tokenText cnxId tok))
  | .redeem presented =>
    match store.matching sha256 presented with
    | none => some (store, .refused)
    | some token => some (store, .matched token.cnxId token.record)
  | .matched cnxId record => some (store.delete cnxId, .redeemed cnxId record)
  | .issued _ | .redeemed .. | .refused => none

def TokenStore.change (store : TokenStore) : TokenChange → Option TokenStore
  | .expired cnxId => if (store.tokens.find? cnxId).any (·.expires) then some (store.delete cnxId) else none
  | .purged cnxId => some (store.expire cnxId)

def TokenCall.isEntry : TokenCall → Bool
  | .issue .. | .redeem _ => true
  | _ => false

def tokenProgram (sha256 : String → String) : Program TokenStore TokenCall TokenInput TokenChange where
  entry call := call.isEntry
  next _ := tokenNext sha256
  outside := TokenStore.change

instance decidableTokenEntry (sha256 : String → String) : DecidablePred (tokenProgram sha256).entry :=
  fun call => inferInstanceAs (Decidable (call.isEntry))

/-- What a connect cookie says: its session and the second at which it expires. -/
structure CookieClaims where
  sid : SessionId
  exp : ℤ
deriving DecidableEq, Repr

/-- The value of a cookie: claims with the control plane's signature, or anything else. -/
inductive CookieText where
  | signed (claims : CookieClaims)
  | other (text : String)
deriving DecidableEq, Repr

def CookieText.claims? : CookieText → Option CookieClaims
  | .signed claims => some claims
  | .other _ => none

/-- The address of a request, its path cut at the slashes. -/
structure Uri where
  path : List String
  query : List (String × String)
deriving DecidableEq, Repr

/-- What the proxy passes on of a request. -/
structure ConnectRequest where
  originalUri : Uri
  cookie : Option CookieText
  /-- `?token=`, of a direct call. -/
  token : Option String
  /-- `X-Gshare-Cnx`. -/
  cnxHeader : Option String
deriving DecidableEq, Repr

/-- The columns of a session that the proxy depends on. -/
structure ConnectRow where
  owner : UserId
  status : Status
  deleted : Bool
deriving DecidableEq, Repr

structure IssuedToken where
  cnxId : String
  tok : String
  sessionId : SessionId
deriving DecidableEq, Repr

/-- The sessions, the tokens, and every token and cookie ever given out. -/
structure Gateway where
  sessions : SessionId → Option ConnectRow
  tokens : TokenStore
  issued : List IssuedToken
  cookies : List CookieClaims

def connectionTokenTtl : ℤ := 300

/-- The answer to a request: the headers of a 200, or a 401. -/
inductive ConnectVerdict where
  | ok (sess : SessionId) (user : Option UserId) (setCookie : Option CookieClaims)
  | unauthenticated (message : String)
deriving DecidableEq, Repr

def makeCookie (sessionId : SessionId) (now : ℤ) : CookieClaims :=
  ⟨sessionId, now / second + connectionTokenTtl * 12⟩

/-- `_verify_cookie`: the session of a signed cookie that has not expired. -/
def verifyCookie (now : ℤ) : Option CookieText → Option SessionId
  | some (.signed claims) => if now / second ≤ claims.exp then some claims.sid else none
  | some (.other _) | none => none

/-- `_cnx_token`: from the query of a direct call, the query of the original address, or the header. -/
def ConnectRequest.cnxToken (req : ConnectRequest) : Option String :=
  let asked := req.originalUri.query.find? fun (name, value) => name == "gshare_cnx" && value != ""
  reported req.token <|> asked.map Prod.snd <|> reported req.cnxHeader

namespace Gateway

variable (sha256 : String → String) (gateway : Gateway)

def running (sess : SessionId) : Bool :=
  (gateway.sessions sess).any fun row => !row.deleted && row.status == .running

/-- The token branch of `connect_verify`. -/
def redeemToken (req : ConnectRequest) (now : ℤ) : Gateway × ConnectVerdict :=
  let refused : ConnectVerdict := .unauthenticated "invalid connection token"
  match req.cnxToken with
  | none => (gateway, refused)
  | some presented =>
    let (tokens, found) := gateway.tokens.redeem sha256 presented
    let redeemed := { gateway with tokens := tokens }
    match found with
    | none => (redeemed, refused)
    | some record =>
      if gateway.running record.sessionId then
        let cookie := makeCookie record.sessionId now
        ({ redeemed with cookies := cookie :: gateway.cookies },
          .ok record.sessionId (some record.owner) (some cookie))
      else (redeemed, refused)

def connectVerify (req : ConnectRequest) (now : ℤ) : Gateway × ConnectVerdict :=
  match verifyCookie now req.cookie with
  | some sid =>
    if gateway.running sid then (gateway, .ok sid none none) else gateway.redeemToken sha256 req now
  | none => gateway.redeemToken sha256 req now

/-- `session_connections`, for one kind: only a running session has tokens. -/
def connections (sess : SessionId) (input : TokenInput) : Option Gateway :=
  match gateway.sessions sess with
  | none => none
  | some row =>
    if gateway.running sess then
      (gateway.tokens.hset input.cnxId ⟨sha256 input.tok, sess, row.owner⟩).map fun tokens =>
        { gateway with
          tokens := tokens.expire input.cnxId
          issued := ⟨input.cnxId, input.tok, sess⟩ :: gateway.issued }
    else none

end Gateway

inductive GatewayEvent where
  /-- A session is created or changes. -/
  | session (id : SessionId) (row : Option ConnectRow)
  | connections (id : SessionId) (input : TokenInput)
  | expired (cnxId : String)
  | request (req : ConnectRequest) (now : ℤ)

def Gateway.step (sha256 : String → String) (gateway : Gateway) : GatewayEvent → Option Gateway
  | .session id row => some { gateway with sessions := Function.update gateway.sessions id row }
  | .connections id input => gateway.connections sha256 id input
  | .expired cnxId => (gateway.tokens.change (.expired cnxId)).map fun tokens => { gateway with tokens := tokens }
  | .request req now => some (gateway.connectVerify sha256 req now).1

/-- The apps of a session pod. -/
inductive SessionApp where
  | code | lab | terminal
deriving DecidableEq, Repr

def SessionApp.segment : SessionApp → String
  | .code => "code"
  | .lab => "lab"
  | .terminal => "terminal"

/-- The paths of `BuildIngress` and `BuildVSCodeIngress`, for the session's custom resource. -/
def buildIngress (crName : String) : List (List String) :=
  [.lab, .terminal, .code].map fun app : SessionApp => ["proxy", crName, app.segment]

/-- The ingress of the custom resource takes the request: one of its paths begins that of the request. -/
def Routed (crName : String) (req : ConnectRequest) : Prop :=
  ∃ path ∈ buildIngress crName, path <+: req.originalUri.path

instance decidableRouted (crName : String) (req : ConnectRequest) : Decidable (Routed crName req) :=
  inferInstanceAs (Decidable (∃ path ∈ buildIngress crName, path <+: req.originalUri.path))

end GShare.Model
