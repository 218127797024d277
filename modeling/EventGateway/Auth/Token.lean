import EventGateway.Auth.Rbac
import EventGateway.Domain.Clock
import Mathlib.Data.Countable.Basic
import Mathlib.Logic.Encodable.Basic
import Mathlib.Logic.Equiv.List

/-! Tokens. Their format, their signature and the check of their times belong to the JWT library. What is assumed of it
is named in the structure `Jwt`. -/

namespace EventGateway.Auth

structure NumericDate where
  seconds : Int
  deriving DecidableEq

def NumericDate.time (date : NumericDate) : Time := date.seconds * 1000000000

structure TokenClaims extends Claims where
  userID : String
  issuer : String
  issuedAt : Option NumericDate
  expiresAt : Option NumericDate
  notBefore : Option NumericDate

/-- The library with the HS256 method, and what is assumed of it. `parse` is `ParseWithClaims` with the function that
returns the secret, up to the check of the times, which is `validate`. -/
structure Jwt where
  signedString : (secret : String) → TokenClaims → String
  parse : (secret : String) → String → Except String TokenClaims
  newNumericDate : Time → NumericDate
  validate : TokenClaims → Time → Except String Unit
  /-- A token that was signed with a secret is read back with it. -/
  parse_signed : ∀ secret claims, parse secret (signedString secret claims) = .ok claims
  /-- A token consists of dots and of the characters of base64. -/
  unspaced : ∀ secret claims, ' ' ∉ (signedString secret claims).toList
  nonempty : ∀ secret claims, signedString secret claims ≠ ""
  /-- A date is cut off to its second. -/
  truncates : ∀ time, (newNumericDate time).time ≤ time ∧ time < (newNumericDate time).time + 1000000000
  /-- No other date than these two is looked at, and none is required. -/
  validate_current : ∀ claims now, claims.notBefore = none → (∀ date ∈ claims.expiresAt, now < date.time) →
    validate claims now = .ok ()
  /-- A token expires with the second that it names. -/
  validate_expired : ∀ claims now, ∀ date ∈ claims.expiresAt, date.time ≤ now → ∃ err, validate claims now = .error err

structure JWTAuthenticator where
  secret : String
  issuer : String
  tokenExpiry : Duration

namespace JWTAuthenticator

def claimsOf (ja : JWTAuthenticator) (jwt : Jwt) (now : Time) (userID : String) (roles : List Role) :
    TokenClaims where
  userID := userID
  roles := roles
  issuer := ja.issuer
  issuedAt := some (jwt.newNumericDate now)
  expiresAt := some (jwt.newNumericDate (now + ja.tokenExpiry.toInt))
  notBefore := none

def expiry (ja : JWTAuthenticator) (jwt : Jwt) (issued : Time) : Time :=
  (jwt.newNumericDate (issued + ja.tokenExpiry.toInt)).time

def generateToken (ja : JWTAuthenticator) (jwt : Jwt) (now : Time) (userID : String) (roles : List Role) :
    Except String String :=
  if userID = "" then .error "user ID cannot be empty"
  else .ok (jwt.signedString ja.secret (ja.claimsOf jwt now userID roles))

def validateToken (ja : JWTAuthenticator) (jwt : Jwt) (now : Time) (tokenString : String) :
    Except String TokenClaims :=
  if tokenString = "" then .error "token cannot be empty"
  else
    match jwt.parse ja.secret tokenString with
    | .error err => .error ("failed to parse token: " ++ err)
    | .ok claims =>
      match jwt.validate claims now with
      | .error err => .error ("failed to parse token: " ++ err)
      | .ok () => .ok claims

end JWTAuthenticator

/-- The token in the value of the header: what comes after `Bearer `, if anything does. -/
def bearerToken (value : String) : String :=
  if 7 < value.utf8ByteSize ∧ "Bearer ".toList <+: value.toList then String.ofList (value.toList.drop 7) else value

section Tokens
variable {jwt : Jwt} {ja issuing : JWTAuthenticator} {now issued : Time} {userID : String} {roles : List Role}

theorem validateToken_ok_iff {token : String} {claims : TokenClaims} :
    ja.validateToken jwt now token = .ok claims ↔
      token ≠ "" ∧ jwt.parse ja.secret token = .ok claims ∧ jwt.validate claims now = .ok () := by
  unfold JWTAuthenticator.validateToken
  by_cases empty : token = ""
  · simp [empty]
  · rw [if_neg empty]
    cases jwt.parse ja.secret token with
    | error err => simp
    | ok found =>
      cases valid : jwt.validate found now with
      | error err =>
        have clash : ∀ same : found = claims, jwt.validate claims now ≠ .ok () := by
          rintro rfl accepted
          cases valid.symm.trans accepted
        simpa [valid] using fun _ => clash
      | ok value =>
        have agrees : found = claims → jwt.validate claims now = .ok () := by
          rintro rfl
          exact valid
        simpa [valid, empty] using agrees

/-- An authenticator with the secret accepts a generated token until it expires, whoever issued it and whenever that
was. -/
theorem validate_generated {token : String} (same : ja.secret = issuing.secret)
    (generated : issuing.generateToken jwt issued userID roles = .ok token) (early : now < issuing.expiry jwt issued) :
    ja.validateToken jwt now token = .ok (issuing.claimsOf jwt issued userID roles) := by
  unfold JWTAuthenticator.generateToken at generated
  split at generated
  next => cases generated
  next =>
    cases generated
    rw [validateToken_ok_iff, same, jwt.parse_signed]
    refine ⟨jwt.nonempty _ _, rfl, jwt.validate_current _ _ rfl ?_⟩
    rintro date ⟨⟩
    exact early

theorem bearerToken_prefixed {token : String} (present : token ≠ "") : bearerToken ("Bearer " ++ token) = token := by
  have long : 7 < ("Bearer " ++ token).utf8ByteSize := by
    have size : 0 < token.utf8ByteSize := by
      rw [Nat.pos_iff_ne_zero, Ne, String.utf8ByteSize_eq_zero_iff]
      exact present
    rw [String.utf8ByteSize_append]
    have head : "Bearer ".utf8ByteSize = 7 := by decide
    omega
  have split : ("Bearer " ++ token).toList = "Bearer ".toList ++ token.toList := String.toList_append
  unfold bearerToken
  rw [if_pos ⟨long, split ▸ List.prefix_append _ _⟩, split]
  simp

theorem bearerToken_plain {token : String} (unspaced : ' ' ∉ token.toList) : bearerToken token = token := by
  apply if_neg
  rintro ⟨-, rest, same⟩
  apply unspaced
  rw [← same]
  simp

theorem bearerToken_generated {token value : String}
    (generated : issuing.generateToken jwt issued userID roles = .ok token)
    (carries : value = token ∨ value = "Bearer " ++ token) : bearerToken value = token := by
  unfold JWTAuthenticator.generateToken at generated
  split at generated
  next => cases generated
  next =>
    cases generated
    rcases carries with rfl | rfl
    · exact bearerToken_plain (jwt.unspaced _ _)
    · exact bearerToken_prefixed (jwt.nonempty _ _)

end Tokens

/-! ### A library -/

instance : Countable TokenClaims := by
  have strings : Countable String := by
    have injective : Function.Injective (fun text : String => text.toList.map Char.toNat) :=
      (List.map_injective_iff.mpr (fun _ _ => Char.toNat_inj.mp)).comp (fun _ _ => String.toList_injective)
    exact injective.countable
  have dates : Countable NumericDate := by
    have injective : Function.Injective NumericDate.seconds := by
      rintro ⟨_⟩ ⟨_⟩ same
      exact congrArg NumericDate.mk same
    exact injective.countable
  have injective : Function.Injective (fun claims : TokenClaims =>
      (claims.roles, claims.userID, claims.issuer, claims.issuedAt, claims.expiresAt, claims.notBefore)) := by
    rintro ⟨⟨_⟩, _, _, _, _, _⟩ ⟨⟨_⟩, _, _, _, _, _⟩ same
    cases same
    rfl
  exact injective.countable

noncomputable def strokes (claims : TokenClaims) : String :=
  String.ofList (List.replicate ((exists_injective_nat TokenClaims).choose claims + 1) 'I')

theorem strokes_injective : Function.Injective strokes := by
  intro one other same
  apply (exists_injective_nat TokenClaims).choose_spec
  have lengths := congrArg (fun token : String => token.toList.length) same
  simpa [strokes] using lengths

open Classical in
/-- A library whose tokens are strokes. It does not look at the secret, and only at the date on which a token expires. -/
noncomputable def Jwt.strokes : Jwt where
  signedString := fun _ claims => Auth.strokes claims
  parse := fun _ token =>
    if known : ∃ claims, Auth.strokes claims = token then .ok known.choose else .error "token is malformed"
  newNumericDate := fun time => ⟨time / 1000000000⟩
  validate := fun claims now =>
    if ∀ date ∈ claims.expiresAt, now < date.time then .ok () else .error "token is expired"
  parse_signed := by
    intro secret claims
    have known : ∃ other, Auth.strokes other = Auth.strokes claims := ⟨claims, rfl⟩
    rw [dif_pos known, strokes_injective known.choose_spec]
  unspaced := by
    intro secret claims
    simp [Auth.strokes]
  nonempty := by
    intro secret claims empty
    have none := congrArg String.toList empty
    simp [Auth.strokes] at none
  truncates := by
    intro time
    have bounds (number : Int) : number / 1000000000 * 1000000000 ≤ number ∧
        number < number / 1000000000 * 1000000000 + 1000000000 := by omega
    exact bounds time
  validate_current := fun _ _ _ current => if_pos current
  validate_expired := fun _ _ date expires late => ⟨_, if_neg (fun current => absurd (current date expires) (not_lt.mpr late))⟩

end EventGateway.Auth
