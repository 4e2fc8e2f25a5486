import GShare.Model.Access.Connection

/-! # What a Redis command of the token service can do

A token that was issued is taken apart again into its name and its secret. `TokenStep` is the inversion of
one command of a call; only the first read of a redemption and the deletion after it concern a token that is
there already.
-/

namespace GShare.Model

open Accounting Roster Option

variable {sha256 : String → String} {store next : TokenStore} {cnxId other tok presented : String}
variable {token : StoredToken} {record : TokenRecord}
variable {user : Option UserId} {cookie : Option CookieClaims}

namespace TokenStore

theorem hset_eq_some (wrote : store.hset cnxId record = some next) :
    cnxId ∉ store.drawn ∧ '.' ∉ cnxId.toList ∧ next.drawn = cnxId :: store.drawn ∧
      store.tokens.insert ⟨cnxId, record, false⟩ = some next.tokens := by
  unfold hset at wrote
  split_ifs at wrote with taken
  obtain ⟨fresh, undotted⟩ := not_or.mp taken
  split at wrote
  · cases wrote
  · rename_i inserted
    cases wrote
    exact ⟨fresh, undotted, rfl, inserted⟩

theorem find?_expire : (store.expire cnxId).tokens.find? other =
      (store.tokens.find? other).map fun token =>
        if token.cnxId = cnxId then { token with expires := true } else token := by
  rw [expire, find?_revise]

/-- The time to live is not part of what a token says. -/
theorem mem_expire (member : token ∈ (store.expire cnxId).tokens.rows) :
    ∃ old ∈ store.tokens.rows, old.cnxId = token.cnxId ∧ old.record = token.record := by
  rw [expire, mem_revise] at member
  rcases member with ⟨before, -⟩ | ⟨old, before, -, rfl⟩
  · exact ⟨token, before, rfl, rfl⟩
  · exact ⟨old, before, rfl, rfl⟩

theorem find?_delete :
    (store.delete cnxId).tokens.find? other = if other = cnxId then none else store.tokens.find? other :=
  find?_remove

theorem matching_eq_some_iff : store.matching sha256 presented = some token ↔
      store.tokens.find? (splitToken presented).1 = some token ∧
        token.record.tokenHash = sha256 (splitToken presented).2 := by
  rw [matching, filter_eq_some_iff, beq_iff_eq]

theorem cnxId_of_matching (found : store.matching sha256 presented = some token) :
    store.tokens.find? token.cnxId = some token := by
  obtain ⟨found, -⟩ := matching_eq_some_iff.mp found
  rwa [(find?_eq_some_iff.mp found).2]

theorem change_eq_some {change : TokenChange} (changed : store.change change = some next) :
    next.drawn = store.drawn ∧ ∀ cnxId, store.tokens.find? cnxId = none → next.tokens.find? cnxId = none := by
  cases change with
  | expired gone =>
    simp only [TokenStore.change] at changed
    split_ifs at changed
    cases changed
    refine ⟨rfl, fun cnxId absent => ?_⟩
    rw [find?_delete, absent, ite_self]
  | purged orphan =>
    cases changed
    refine ⟨rfl, fun cnxId absent => ?_⟩
    rw [find?_expire, absent, map_none]

end TokenStore

variable (sha256 : String → String) (store : TokenStore) in
inductive TokenStep : TokenCall → TokenStore → TokenCall → Prop
  | wrote {sessionId : SessionId} {owner : UserId} {cnxId tok : String} {next : TokenStore}
      (wrote : store.hset cnxId ⟨sha256 tok, sessionId, owner⟩ = some next) :
      TokenStep (.issue sessionId owner) next (.stored cnxId tok)
  | bounded {cnxId tok : String} :
      TokenStep (.stored cnxId tok) (store.expire cnxId) (.issued (tokenText cnxId tok))
  | missed {presented : String} : TokenStep (.redeem presented) store .refused
  | read {presented : String} {token : StoredToken}
      (found : store.matching sha256 presented = some token) :
      TokenStep (.redeem presented) store (.matched token.cnxId token.record)
  | spent {cnxId : String} {record : TokenRecord} :
      TokenStep (.matched cnxId record) (store.delete cnxId) (.redeemed cnxId record)

theorem tokenStep_of_next {call after : TokenCall} {input : TokenInput}
    (taken : tokenNext sha256 store call input = some (next, after)) : TokenStep sha256 store call next after := by
  cases call with
  | issue sessionId owner =>
    obtain ⟨_, wrote, same⟩ := map_eq_some_iff.mp taken
    cases same
    exact .wrote wrote
  | stored cnxId tok =>
    cases taken
    exact .bounded
  | redeem presented =>
    simp only [tokenNext] at taken
    split at taken
    · cases taken
      exact .missed
    · rename_i token found
      cases taken
      exact .read found
  | matched cnxId record =>
    cases taken
    exact .spent
  | issued | redeemed | refused => cases taken

namespace Gateway

variable {gateway : Gateway} {req : ConnectRequest} {now : ℤ} {sess : SessionId}

theorem redeem_eq (store : TokenStore) (presented : String) :
    store.redeem sha256 presented = ((store.matching sha256 presented).elim store fun token =>
      store.delete token.cnxId, (store.matching sha256 presented).map StoredToken.record) := by
  unfold TokenStore.redeem
  cases store.matching sha256 presented with
  | none => rfl
  | some token => rfl

theorem connectVerify_of_cookie (valid : verifyCookie now req.cookie = some sess)
    (runs : gateway.running sess) :
    gateway.connectVerify sha256 req now = (gateway, .ok sess none none) := by
  simp only [connectVerify, valid, if_pos runs]

theorem connectVerify_of_token (uncovered : ∀ sid ∈ verifyCookie now req.cookie, gateway.running sid = false) :
    gateway.connectVerify sha256 req now = gateway.redeemToken sha256 req now := by
  unfold connectVerify
  cases valid : verifyCookie now req.cookie with
  | none => rfl
  | some sid => simp [uncovered sid (by rw [valid]; rfl)]

theorem redeemToken_eq_ok (carried : req.cnxToken = some presented)
    (found : gateway.tokens.matching sha256 presented = some token)
    (runs : gateway.running token.record.sessionId) :
    (gateway.redeemToken sha256 req now).2 = .ok token.record.sessionId (some token.record.owner)
      (some (makeCookie token.record.sessionId now)) := by
  simp only [redeemToken, carried, redeem_eq, found, map_some, if_pos runs]

theorem redeemToken_cases (opened : (gateway.redeemToken sha256 req now).2 = .ok sess user cookie) :
    gateway.running sess ∧ ∃ presented ∈ req.cnxToken,
      ∃ token ∈ gateway.tokens.matching sha256 presented, token.record.sessionId = sess := by
  unfold redeemToken at opened
  cases carried : req.cnxToken with
  | none =>
    rw [carried] at opened
    cases opened
  | some presented =>
    cases found : gateway.tokens.matching sha256 presented with
    | none =>
      simp only [carried, redeem_eq, found, map_none] at opened
      cases opened
    | some token =>
      simp only [carried, redeem_eq, found, map_some] at opened
      split_ifs at opened with runs
      cases opened
      exact ⟨runs, presented, rfl, token, found, rfl⟩

theorem connectVerify_cases (opened : (gateway.connectVerify sha256 req now).2 = .ok sess user cookie) :
    gateway.running sess ∧ (verifyCookie now req.cookie = some sess ∨
        (∀ sid ∈ verifyCookie now req.cookie, gateway.running sid = false) ∧
        ∃ presented ∈ req.cnxToken, ∃ token ∈ gateway.tokens.matching sha256 presented,
          token.record.sessionId = sess) := by
  by_cases covered : ∃ sid ∈ verifyCookie now req.cookie, gateway.running sid
  · obtain ⟨sid, valid, runs⟩ := covered
    rw [connectVerify_of_cookie valid runs] at opened
    cases opened
    exact ⟨runs, .inl valid⟩
  · have uncovered : ∀ sid ∈ verifyCookie now req.cookie, gateway.running sid = false :=
      fun sid valid => Bool.eq_false_iff.mpr fun runs => covered ⟨sid, valid, runs⟩
    rw [connectVerify_of_token uncovered] at opened
    obtain ⟨runs, redeemed⟩ := redeemToken_cases opened
    exact ⟨runs, .inr ⟨uncovered, redeemed⟩⟩

/-- A request writes no token, and leaves what was given out. -/
theorem redeemToken_tokens : (gateway.redeemToken sha256 req now).1.issued = gateway.issued ∧
      ∀ token ∈ (gateway.redeemToken sha256 req now).1.tokens.tokens.rows,
        token ∈ gateway.tokens.tokens.rows := by
  unfold redeemToken
  cases req.cnxToken with
  | none => exact ⟨rfl, fun _ => id⟩
  | some presented =>
    cases found : gateway.tokens.matching sha256 presented with
    | none =>
      simp only [redeem_eq, found, map_none]
      exact ⟨trivial, fun _ => id⟩
    | some token =>
      simp only [redeem_eq, found, map_some]
      split_ifs <;> exact ⟨rfl, fun _ member => (mem_remove.mp member).1⟩

theorem connectVerify_tokens : (gateway.connectVerify sha256 req now).1.issued = gateway.issued ∧
      ∀ token ∈ (gateway.connectVerify sha256 req now).1.tokens.tokens.rows,
        token ∈ gateway.tokens.tokens.rows := by
  unfold connectVerify
  cases verifyCookie now req.cookie with
  | none => exact redeemToken_tokens
  | some sid =>
    simp only
    split_ifs
    · exact ⟨rfl, fun _ => id⟩
    · exact redeemToken_tokens

end Gateway

end GShare.Model
