import GoKit.Endpoint

/-!
# Basic authentication (`auth/basic`)

`AuthMiddleware(requiredUser, requiredPassword, realm)` lets a call through when the request's
authorization value is `Basic ` followed by a base64 payload that decodes to `user:password`, and
the SHA-256 hashes of both match those of the required credential; every other call fails with
`AuthError{realm}` (`authMiddleware_spec`).

`parseBasicAuth` splits the decoded payload at its *first* colon. What it accepts is exactly a
`Credential` (`parseBasicAuth_eq_some_iff`): the prefix, then a payload decoding to a user name
without a colon, a colon and the password. So a credential round-trips exactly when its user name
has no colon (`parseBasicAuth_round_trip`).

Base64 decoding and SHA-256 come from the standard library and are parameters here, any functions:
the middleware's specification (`authMiddleware_spec`) compares hashes, as the code does.
-/

namespace GoKit.Auth.Basic

/-- A Go string or byte slice, by its bytes. -/
abbrev Bytes := List UInt8

/-- The byte `':'`. -/
def colon : UInt8 := 58

/-- The `prefix` constant of `parseBasicAuth`: the bytes of `"Basic "`. -/
def basicPrefix : Bytes := "Basic ".toList.map fun c => c.toNat.toUInt8

/-- `bytes.IndexByte(b, c)`: the index of the first `c` in `b`, `none` for its `-1`. -/
def indexByte : Bytes → UInt8 → Option Nat
  | [], _ => none
  | b :: bs, c => if b = c then some 0 else (indexByte bs c).map (· + 1)

theorem indexByte_append_of_not_mem {u : Bytes} {c : UInt8} (hu : c ∉ u) (v : Bytes) :
    indexByte (u ++ c :: v) c = some u.length := by
  induction u with
  | nil => simp [indexByte]
  | cons x u ih =>
    have hx : x ≠ c := fun h => hu (h ▸ List.mem_cons_self x u)
    simp [indexByte, hx, ih (fun h => hu (List.mem_cons_of_mem x h))]

/-- `IndexByte` finds the first `c`: before it there is none, and the slices around it rebuild `b`. -/
theorem indexByte_eq_some {b : Bytes} {c : UInt8} {s : Nat} (h : indexByte b c = some s) :
    b.take s ++ c :: b.drop (s + 1) = b ∧ c ∉ b.take s := by
  induction b generalizing s with
  | nil => cases h
  | cons x xs ih =>
    unfold indexByte at h
    split at h
    · cases h
      subst x
      exact ⟨rfl, List.not_mem_nil _⟩
    · obtain ⟨s, hs, rfl⟩ := Option.map_eq_some'.mp h
      obtain ⟨h₁, h₂⟩ := ih hs
      simp only [List.take_succ_cons, List.drop_succ_cons, List.cons_append, h₁, List.mem_cons,
        not_or, true_and]
      exact ⟨Ne.symm ‹_›, h₂⟩

/-! ### `parseBasicAuth` -/

section Parse
variable (decode : Bytes → Option Bytes)

/-- `parseBasicAuth`, with `base64.StdEncoding.DecodeString` as `decode`: the user name and the
password, or `none` where the source returns `ok = false`. -/
def parseBasicAuth (auth : Bytes) : Option (Bytes × Bytes) :=
  if !basicPrefix.isPrefixOf auth then none
  else
    match decode (auth.drop basicPrefix.length) with
    | none => none
    | some c =>
      match indexByte c colon with
      | none => none
      | some s => some (c.take s, c.drop (s + 1))

/-- A well-formed credential for `user` and `password`: the prefix, then a payload that decodes to
the user name, which has no colon, a colon and the password. -/
def Credential (auth user password : Bytes) : Prop :=
  ∃ payload, auth = basicPrefix ++ payload ∧ decode payload = some (user ++ colon :: password) ∧
    colon ∉ user

/-- `parseBasicAuth` accepts exactly the well-formed credentials, and returns their parts. -/
theorem parseBasicAuth_eq_some_iff {auth user password : Bytes} :
    parseBasicAuth decode auth = some (user, password) ↔ Credential decode auth user password := by
  constructor
  · intro h
    unfold parseBasicAuth at h
    split at h
    · cases h
    rename_i hpre
    have hauth : basicPrefix ++ auth.drop basicPrefix.length = auth :=
      List.prefix_iff_eq_append.mp (List.isPrefixOf_iff_prefix.mp (by simpa using hpre))
    split at h
    · cases h
    rename_i c hc
    split at h
    · cases h
    rename_i s hs
    cases h
    obtain ⟨hsplit, hu⟩ := indexByte_eq_some hs
    exact ⟨_, hauth.symm, by rw [hsplit]; exact hc, hu⟩
  · rintro ⟨payload, rfl, hdec, hu⟩
    have hpre : basicPrefix.isPrefixOf (basicPrefix ++ payload) = true :=
      List.isPrefixOf_iff_prefix.mpr (List.prefix_append _ _)
    simp [parseBasicAuth, hpre, List.drop_left, hdec, indexByte_append_of_not_mem hu]

/-- What `parseBasicAuth` accepts is well formed, and it reads back every credential whose user
name has no colon, for any encoder the decoder inverts; one with a colon in its user name is split
at that colon and never read back. -/
theorem parseBasicAuth_round_trip :
    (∀ auth user password, parseBasicAuth decode auth = some (user, password) →
      Credential decode auth user password) ∧
    ∀ encode : Bytes → Bytes, (∀ b, decode (encode b) = some b) → ∀ user password,
      parseBasicAuth decode (basicPrefix ++ encode (user ++ colon :: password)) = some (user, password) ↔
        colon ∉ user := by
  refine ⟨fun _ _ _ => (parseBasicAuth_eq_some_iff decode).mp, fun encode henc user password => ?_⟩
  rw [parseBasicAuth_eq_some_iff]
  exact ⟨fun ⟨_, h, _, hu⟩ => hu, fun hu => ⟨_, rfl, henc _, hu⟩⟩

/-- The password keeps its colons: `a:b:c` is user `a`, password `b:c`. -/
example : parseBasicAuth some (basicPrefix ++ [97, 58, 98, 58, 99]) = some ([97], [98, 58, 99]) := by
  decide

end Parse

/-! ### `AuthMiddleware` -/

/-- `AuthError`, by its realm. -/
structure AuthError where
  realm : String
deriving DecidableEq, Repr

/-- `subtle.ConstantTimeCompare`: `1` for equal slices, `0` otherwise. -/
def constantTimeCompare (x y : Bytes) : Nat := if x = y then 1 else 0

section Middleware
variable {Ctx Req Res Err : Type} (decode : Bytes → Option Bytes) (sha256 : Bytes → Bytes)
  (authorization : Ctx → Option Bytes) (toError : AuthError → Err)

/-- `toHashSlice`, with `sha256.Sum256` as `sha256`. -/
def toHashSlice (s : Bytes) : Bytes := sha256 s

/-- `AuthMiddleware`. The request's `ContextKeyRequestAuthorization` value, where it is a string, is
`authorization`, and `toError` is the `error` an `AuthError` is. -/
def authMiddleware (requiredUser requiredPassword : Bytes) (realm : String) :
    Middleware Ctx Req Res Err :=
  let requiredUserBytes := toHashSlice sha256 requiredUser
  let requiredPasswordBytes := toHashSlice sha256 requiredPassword
  fun next ctx request =>
    match authorization ctx with
    | none => .error (toError ⟨realm⟩)
    | some auth =>
      match parseBasicAuth decode auth with
      | none => .error (toError ⟨realm⟩)
      | some (givenUser, givenPassword) =>
        if constantTimeCompare (toHashSlice sha256 givenUser) requiredUserBytes = 0 ∨
            constantTimeCompare (toHashSlice sha256 givenPassword) requiredPasswordBytes = 0 then
          .error (toError ⟨realm⟩)
        else next ctx request

variable (requiredUser requiredPassword : Bytes) (realm : String)
  (next : Endpoint Ctx Req Res Err) (ctx : Ctx) (request : Req)

/-- A call is let through when its credential parses and both hashes match. -/
theorem authMiddleware_of_parse {auth user password : Bytes} (hctx : authorization ctx = some auth)
    (hparse : parseBasicAuth decode auth = some (user, password))
    (hu : sha256 user = sha256 requiredUser) (hp : sha256 password = sha256 requiredPassword) :
    authMiddleware decode sha256 authorization toError requiredUser requiredPassword realm next ctx
      request = next ctx request := by
  simp [authMiddleware, hctx, hparse, toHashSlice, constantTimeCompare, hu, hp]

/-- A call is failed with the realm's `AuthError` unless its credential parses and both hashes
match. -/
theorem authMiddleware_of_not_parse
    (h : ∀ auth user password, authorization ctx = some auth →
      parseBasicAuth decode auth = some (user, password) →
      sha256 user = sha256 requiredUser → sha256 password ≠ sha256 requiredPassword) :
    authMiddleware decode sha256 authorization toError requiredUser requiredPassword realm next ctx
      request = .error (toError ⟨realm⟩) := by
  unfold authMiddleware
  split
  · rfl
  · rename_i auth hctx
    split
    · rfl
    · rename_i user password hparse
      by_cases hu : sha256 user = sha256 requiredUser
      · simp [toHashSlice, constantTimeCompare, h auth user password hctx hparse hu]
      · simp [toHashSlice, constantTimeCompare, hu]

/-- `AuthMiddleware` lets a call through exactly when the request carries a well-formed credential
whose user name and password hash as the required ones do, and fails it with the realm's
`AuthError` otherwise. The middleware compares hashes, not credentials: a credential that collides
with the required one under SHA-256 is let through. -/
theorem authMiddleware_spec :
    ((∃ auth user password, authorization ctx = some auth ∧ Credential decode auth user password ∧
        sha256 user = sha256 requiredUser ∧ sha256 password = sha256 requiredPassword) →
      authMiddleware decode sha256 authorization toError requiredUser requiredPassword realm next
        ctx request = next ctx request) ∧
    ((¬∃ auth user password, authorization ctx = some auth ∧ Credential decode auth user password ∧
        sha256 user = sha256 requiredUser ∧ sha256 password = sha256 requiredPassword) →
      authMiddleware decode sha256 authorization toError requiredUser requiredPassword realm next
        ctx request = .error (toError ⟨realm⟩)) := by
  refine ⟨fun ⟨auth, user, password, hctx, hcred, hu, hp⟩ => ?_, fun hno => ?_⟩
  · exact authMiddleware_of_parse decode sha256 authorization toError requiredUser requiredPassword
      realm next ctx request hctx ((parseBasicAuth_eq_some_iff decode).mpr hcred) hu hp
  · exact authMiddleware_of_not_parse decode sha256 authorization toError requiredUser requiredPassword
      realm next ctx request fun auth user password hctx hparse hu hp =>
        hno ⟨auth, user, password, hctx, (parseBasicAuth_eq_some_iff decode).mp hparse, hu, hp⟩

end Middleware

end GoKit.Auth.Basic
