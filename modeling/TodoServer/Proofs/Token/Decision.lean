/-
The verdict on a token, by the first check that fails.

Verification runs through four stages, each on what the one before has found: the header, the
key, the signature and the claims. Here each stage is described by what it has to find in the
token, without regard to how it is found, and the verdict is described by the first thing that
is not there. Every token, key source and time has exactly one verdict in this description, and
it is the one given.

A signature is found good if it verifies under the key and the header asks for no extension
that is not understood; `b64`, which is, decides only in what form the payload is written.

* `Formed`, `Named`, `Signed` — a token whose first stages pass, with what they have found;
* `Judged` — the verdict on the claims of a payload;
* `Decided` — the verdict on a token;
* `verify_decided` — verification gives this verdict, or fails as the key source has failed.
-/
import TodoServer.Token.Verification
import TodoServer.Proofs.Number.Rounding
import TodoServer.Proofs.Text.Splitting

namespace TodoServer

/-! ### Values -/

namespace Json.Value

@[simp] theorem text?_eq_some_iff {value : Value} {t : Text} :
    value.text? = some t ↔ value = .text t := by
  cases value <;> simp [text?]

@[simp] theorem number?_eq_some_iff {value : Value} {n : Number} :
    value.number? = some n ↔ value = .number n := by
  cases value <;> simp [number?]

@[simp] theorem members?_eq_some_iff {value : Value} {members : List Member} :
    value.members? = some members ↔ value = .object members := by
  cases value <;> simp [members?]

end Json.Value

@[simp] theorem Datum.text_same_text_iff {t u : Text} :
    (Datum.text t).same (.text u) = true ↔ t = u := by
  simp [Datum.same, Datum.isSimple]

theorem Text.isEmpty_iff {t : Text} : t.isEmpty = true ↔ t = "" := by
  have hempty : ("" : Text) = ⟨[]⟩ := rfl
  rcases t with ⟨units⟩
  rw [hempty, Text.isEmpty, List.isEmpty_iff, Text.mk.injEq]

namespace Token

/-! ### The header -/

/-- A token is written as three parts with a point between each two. -/
structure Parts.Write (parts : Parts) (token : Text) : Prop where
  token_eq : token = parts.header ++ "." ++ parts.payload ++ "." ++ parts.signature
  header : point ∉ parts.header.units
  payload : point ∉ parts.payload.units
  signature : point ∉ parts.signature.units

/-- A token has three parts, and the first is not empty and writes an object. -/
structure Formed (token : Text) (parts : Parts) (members : List Json.Member) : Prop where
  write : parts.Write token
  header_ne : parts.header ≠ ""
  header_eq : Json.ofBytes? (Base64.decode parts.header) = some (.object members)

/-- The header of a token pins the algorithm and names a key. -/
structure Named (token : Text) (parts : Parts) (members : List Json.Member) (keyId : Text) :
    Prop extends Formed token parts members where
  algorithm : Json.lookup members "alg" = some (.text allowedAlgorithm)
  keyId_eq : Json.lookup members "kid" = some (.text keyId)
  keyId_ne : keyId ≠ ""

/-- The parts of a token are those it is written as. -/
theorem Parts.ofToken?_eq_some_iff {token : Text} {parts : Parts} :
    ofToken? token = some parts ↔ parts.Write token := by
  have hpoint : ("." : Text).units = [point] := by decide
  -- three parts between points are a way to write the token, and the other way round
  have hcut : token.units.splitOn point =
      [parts.header.units, parts.payload.units, parts.signature.units] ↔
        parts.Write token := by
    rw [splitOn_eq_iff (List.cons_ne_nil _ _)]
    constructor
    · rintro ⟨hunits, hparts⟩
      refine ⟨?_, hparts _ (by simp), hparts _ (by simp), hparts _ (by simp)⟩
      cases token with
      | mk units =>
        simp only at hunits
        subst hunits
        show _ = Text.mk (_ ++ ("." : Text).units ++ _ ++ ("." : Text).units ++ _)
        rw [hpoint]
        simp
    · rintro ⟨rfl, hheader, hpayload, hsignature⟩
      refine ⟨?_, by simp [hheader, hpayload, hsignature]⟩
      show _ ++ ("." : Text).units ++ _ ++ ("." : Text).units ++ _ = _
      rw [hpoint]
      simp
  rw [← hcut]
  unfold ofToken?
  rcases parts with ⟨⟨header'⟩, ⟨payload'⟩, ⟨signature'⟩⟩
  rcases token.units.splitOn point with
    _ | ⟨header, _ | ⟨payload, _ | ⟨signature, _ | ⟨more, rest⟩⟩⟩⟩ <;> simp

theorem headerMembers?_eq_some_iff {part : Text} {members : List Json.Member} :
    headerMembers? part = some members ↔
      part ≠ "" ∧ Json.ofBytes? (Base64.decode part) = some (.object members) := by
  unfold headerMembers?
  split_ifs with hempty
  · simp [Text.isEmpty_iff.1 hempty]
  · rw [Text.isEmpty_iff] at hempty
    rw [Option.bind_eq_some_iff]
    simp [hempty]

/-- The header of a token can be read exactly if the token is formed. -/
theorem bind_headerMembers?_eq_some_iff {token : Text} {members : List Json.Member} :
    ((Parts.ofToken? token).bind fun parts => headerMembers? parts.header) = some members ↔
      ∃ parts, Formed token parts members := by
  rw [Option.bind_eq_some_iff]
  constructor
  · rintro ⟨parts, hparts, hmembers⟩
    obtain ⟨hne, hobject⟩ := headerMembers?_eq_some_iff.1 hmembers
    exact ⟨parts, Parts.ofToken?_eq_some_iff.1 hparts, hne, hobject⟩
  · rintro ⟨parts, hwrite, hne, hobject⟩
    exact ⟨parts, Parts.ofToken?_eq_some_iff.2 hwrite,
      headerMembers?_eq_some_iff.2 ⟨hne, hobject⟩⟩

theorem Formed.read_eq {token : Text} {parts : Parts} {members : List Json.Member}
    (h : Formed token parts members) :
    Header.read token =
      if (Json.lookup members "alg").bind Json.Value.text? ≠ some allowedAlgorithm then
        .error .algorithmNotAllowed
      else
        match (Json.lookup members "kid").bind Json.Value.text? with
        | none => .error .missingKeyId
        | some keyId =>
          if keyId = "" then .error .missingKeyId else .ok ⟨keyId, allowedAlgorithm⟩ := by
  unfold Header.read
  rewrite [bind_headerMembers?_eq_some_iff.2 ⟨parts, h⟩]
  rfl

theorem bind_text?_eq_some_iff {members : List Json.Member} {name t : Text} :
    (Json.lookup members name).bind Json.Value.text? = some t ↔
      Json.lookup members name = some (.text t) := by
  simp [Option.bind_eq_some_iff]

theorem read_of_not_formed {token : Text} (h : ∀ parts members, ¬Formed token parts members) :
    Header.read token = .error .malformed := by
  unfold Header.read
  rcases hmembers : (Parts.ofToken? token).bind fun parts => headerMembers? parts.header with
    _ | members
  · rfl
  · obtain ⟨parts, hformed⟩ := bind_headerMembers?_eq_some_iff.1 hmembers
    exact absurd hformed (h parts members)

theorem Named.read_eq {token : Text} {parts : Parts} {members : List Json.Member}
    {keyId : Text} (h : Named token parts members keyId) :
    Header.read token = .ok ⟨keyId, allowedAlgorithm⟩ := by
  rw [h.toFormed.read_eq, if_neg (not_not.2 (bind_text?_eq_some_iff.2 h.algorithm)),
    bind_text?_eq_some_iff.2 h.keyId_eq]
  exact if_neg h.keyId_ne

theorem Formed.read_of_algorithm {token : Text} {parts : Parts} {members : List Json.Member}
    (h : Formed token parts members)
    (halgorithm : Json.lookup members "alg" ≠ some (.text allowedAlgorithm)) :
    Header.read token = .error .algorithmNotAllowed := by
  rw [h.read_eq, if_pos (mt bind_text?_eq_some_iff.1 halgorithm)]

theorem Formed.read_of_keyId {token : Text} {parts : Parts} {members : List Json.Member}
    (h : Formed token parts members)
    (halgorithm : Json.lookup members "alg" = some (.text allowedAlgorithm))
    (hkeyId : ∀ keyId, Json.lookup members "kid" = some (.text keyId) → keyId = "") :
    Header.read token = .error .missingKeyId := by
  rw [h.read_eq, if_neg (not_not.2 (bind_text?_eq_some_iff.2 halgorithm))]
  rcases hread : (Json.lookup members "kid").bind Json.Value.text? with _ | keyId
  · rfl
  · exact if_pos (hkeyId keyId (bind_text?_eq_some_iff.1 hread))

/-- Every token either names a key, or fails at the first thing that is not there. -/
theorem named_cases (token : Text) :
    (∃ parts members keyId, Named token parts members keyId) ∨
      (∀ parts members, ¬Formed token parts members) ∨
      (∃ parts members, Formed token parts members ∧
        Json.lookup members "alg" ≠ some (.text allowedAlgorithm)) ∨
      ∃ parts members, Formed token parts members ∧
        Json.lookup members "alg" = some (.text allowedAlgorithm) ∧
        ∀ keyId, Json.lookup members "kid" = some (.text keyId) → keyId = "" := by
  by_cases hformed : ∃ parts members, Formed token parts members
  · obtain ⟨parts, members, hformed⟩ := hformed
    by_cases halgorithm : Json.lookup members "alg" = some (.text allowedAlgorithm)
    · by_cases hkeyId : ∃ keyId, Json.lookup members "kid" = some (.text keyId) ∧ keyId ≠ ""
      · obtain ⟨keyId, hkeyId, hne⟩ := hkeyId
        exact Or.inl ⟨parts, members, keyId, hformed, halgorithm, hkeyId, hne⟩
      · push Not at hkeyId
        exact Or.inr (Or.inr (Or.inr ⟨parts, members, hformed, halgorithm, hkeyId⟩))
    · exact Or.inr (Or.inr (Or.inl ⟨parts, members, hformed, halgorithm⟩))
  · push Not at hformed
    exact Or.inr (Or.inl hformed)

/-! ### The signature -/

/-- The payload that a token carries: its second part decoded, or that part as it is written
where the header says so by the one extension understood. -/
inductive Carries (parts : Parts) (members : List Json.Member) : List UInt8 → Prop
  | encoded (hcrit : Json.lookup members "crit" = none) :
    Carries parts members (Base64.decode parts.payload)
  | extended {items : List Json.Value} {encoded : Bool}
    (hcrit : Json.lookup members "crit" = some (.array items)) (hne : items ≠ [])
    (hitems : ∀ item ∈ items, item = .text unencodedPayload)
    (hencoded : Json.lookup members unencodedPayload = some (.bool encoded)) :
    Carries parts members
      (if encoded then Base64.decode parts.payload else Utf8.encode parts.payload)

/-- The signature of a token verifies under a key, for the payload that the token carries. -/
structure Signed (parts : Parts) (members : List Json.Member) (key : Rsa.Key)
    (payload : List UInt8) : Prop where
  verifies : Rsa.verifies key (Utf8.encode (parts.header ++ "." ++ parts.payload))
    (Base64.decode parts.signature) = true
  carries : Carries parts members payload

theorem listsExtension_iff {extensions : Json.Value} :
    listsExtension extensions = true ↔
      ∃ items, extensions = .array items ∧ items ≠ [] ∧
        ∀ item ∈ items, item = .text unencodedPayload := by
  rcases extensions with _ | _ | _ | _ | (_ | ⟨first, rest⟩) | _ <;>
    simp [listsExtension]

/-- The payload that a token carries is the one in the form that its header says. -/
theorem carries_iff {parts : Parts} {members : List Json.Member} {payload : List UInt8} :
    Carries parts members payload ↔
      ∃ encoded, payloadEncoded? members = some encoded ∧
        payload = if encoded then Base64.decode parts.payload else
          Utf8.encode parts.payload := by
  constructor
  · intro h
    cases h with
    | encoded hcrit =>
      refine ⟨true, ?_, rfl⟩
      rw [payloadEncoded?, hcrit]
    | @extended items encoded hcrit hne hitems hencoded =>
      refine ⟨encoded, ?_, rfl⟩
      have hlists : listsExtension (.array items) = true :=
        listsExtension_iff.2 ⟨items, rfl, hne, hitems⟩
      rw [payloadEncoded?, hcrit]
      simp only [hlists, if_true, hencoded]
  · rintro ⟨encoded, hencoded, rfl⟩
    unfold payloadEncoded? at hencoded
    rcases hcrit : Json.lookup members "crit" with _ | extensions
    · rw [hcrit, Option.some_inj] at hencoded
      subst hencoded
      exact .encoded hcrit
    · simp only [hcrit] at hencoded
      split_ifs at hencoded with hlists
      obtain ⟨items, rfl, hne, hitems⟩ := listsExtension_iff.1 hlists
      rcases hb64 : Json.lookup members unencodedPayload with _ | value
      · simp [hb64] at hencoded
      · rw [hb64] at hencoded
        cases value <;> simp at hencoded
        subst hencoded
        exact .extended hcrit hne hitems hb64

/-- A token with a header of its own has the payload of its signature, if that verifies. -/
theorem Named.verifiedPayload?_eq_some_iff {token : Text} {parts : Parts}
    {members : List Json.Member} {keyId : Text} (h : Named token parts members keyId)
    {key : Rsa.Key} {payload : List UInt8} :
    verifiedPayload? token key = some payload ↔ Signed parts members key payload := by
  have hparts := Parts.ofToken?_eq_some_iff.2 h.write
  have hmembers := headerMembers?_eq_some_iff.2 ⟨h.header_ne, h.header_eq⟩
  have halgorithm := bind_text?_eq_some_iff.2 h.algorithm
  unfold verifiedPayload?
  simp only [hparts, hmembers, Option.bind_eq_bind, Option.bind_some, halgorithm, true_and]
  rw [Option.bind_eq_some_iff]
  constructor
  · rintro ⟨encoded, hencoded, hpayload⟩
    obtain ⟨hverifies, hsome⟩ := Option.ite_none_right_eq_some.1 hpayload
    exact ⟨hverifies, carries_iff.2 ⟨encoded, hencoded, (Option.some_inj.1 hsome).symm⟩⟩
  · rintro ⟨hverifies, hcarries⟩
    obtain ⟨encoded, hencoded, rfl⟩ := carries_iff.1 hcarries
    exact ⟨encoded, hencoded, if_pos hverifies⟩

/-! ### The claims -/

/-- A member, where it is present, can be read in a way. -/
def Readable {α : Type} (read : Json.Value → Option α) (members : List Json.Member)
    (name : Text) : Prop :=
  ∀ value, Json.lookup members name = some value → (read value).isSome = true

/-- The claims that are used have their types where they are present: texts, numbers, and for
the audience a text or an array of texts. -/
structure Typed (members : List Json.Member) : Prop where
  subject : Readable Json.Value.text? members "sub"
  issuer : Readable Json.Value.text? members "iss"
  audience : Readable audiences? members "aud"
  expiry : Readable Json.Value.number? members "exp"
  notBefore : Readable Json.Value.number? members "nbf"
  tokenUse : Readable Json.Value.text? members "token_use"

theorem optional?_eq_some_iff {α : Type} {read : Json.Value → Option α}
    {members : List Json.Member} {name : Text} {held : Option α} :
    Json.optional? read members name = some held ↔
      Readable read members name ∧ held = (Json.lookup members name).bind read := by
  unfold Json.optional? Readable
  rcases Json.lookup members name with _ | value
  · simpa using eq_comm
  · rcases hread : read value with _ | a
    · simp [hread]
    · simpa [hread] using eq_comm

/-- The claims of an object's members, read one by one. -/
def claimsOf (members : List Json.Member) : Claims :=
  { subject := (Json.lookup members "sub").bind Json.Value.text?
    issuer := (Json.lookup members "iss").bind Json.Value.text?
    audience := (Json.lookup members "aud").bind audiences?
    expiry := (Json.lookup members "exp").bind Json.Value.number?
    notBefore := (Json.lookup members "nbf").bind Json.Value.number?
    tokenUse := (Json.lookup members "token_use").bind Json.Value.text? }

theorem ofMembers?_eq_some_iff {members : List Json.Member} {claims : Claims} :
    Claims.ofMembers? members = some claims ↔ Typed members ∧ claims = claimsOf members := by
  unfold Claims.ofMembers?
  simp only [Option.bind_eq_bind, Option.bind_eq_some_iff, optional?_eq_some_iff]
  constructor
  · rintro ⟨_, ⟨hsub, rfl⟩, _, ⟨hiss, rfl⟩, _, ⟨haud, rfl⟩, _, ⟨hexp, rfl⟩, _, ⟨hnbf, rfl⟩, _,
      ⟨huse, rfl⟩, hclaims⟩
    exact ⟨⟨hsub, hiss, haud, hexp, hnbf, huse⟩, (Option.some_inj.1 hclaims).symm⟩
  · rintro ⟨htyped, rfl⟩
    exact ⟨_, ⟨htyped.subject, rfl⟩, _, ⟨htyped.issuer, rfl⟩, _, ⟨htyped.audience, rfl⟩, _,
      ⟨htyped.expiry, rfl⟩, _, ⟨htyped.notBefore, rfl⟩, _, ⟨htyped.tokenUse, rfl⟩, rfl⟩

/-- A payload makes claims exactly if it writes an object whose claims have their types. -/
theorem ofPayload?_eq_some_iff {payload : List UInt8} {claims : Claims} :
    Claims.ofPayload? payload = some claims ↔
      ∃ members, Json.ofBytes? payload = some (.object members) ∧ Typed members ∧
        claims = claimsOf members := by
  unfold Claims.ofPayload?
  simp only [Option.bind_eq_some_iff, Json.Value.members?_eq_some_iff, ofMembers?_eq_some_iff]
  constructor
  · rintro ⟨members, ⟨value, hvalue, rfl⟩, hclaims⟩
    exact ⟨members, hvalue, hclaims⟩
  · rintro ⟨members, hvalue, hclaims⟩
    exact ⟨members, ⟨_, hvalue, rfl⟩, hclaims⟩

/-- The audience of a token, or one of its audiences. -/
def Names (members : List Json.Member) (audience : Text) : Prop :=
  Json.lookup members "aud" = some (.text audience) ∨
    ∃ items, Json.lookup members "aud" = some (.array items) ∧ .text audience ∈ items

/-- A time has come to a second. -/
def HasReached (now : Date) (second : Number) : Prop :=
  ∃ millis, now = .valid millis ∧ second.le (.finite ((millis / 1000 : ℤ) : ℚ)) = true

/-- A time has not come to a second. -/
def IsBefore (now : Date) (second : Number) : Prop :=
  ∃ millis, now = .valid millis ∧ (Number.finite ((millis / 1000 : ℤ) : ℚ)).lt second = true

/-- A payload writes an object whose claims have their types. -/
structure Claiming (payload : List UInt8) (members : List Json.Member) : Prop where
  object_eq : Json.ofBytes? payload = some (.object members)
  typed : Typed members

/-- The claims of a payload name the issuer and the audience expected. -/
structure Meant (payload : List UInt8) (members : List Json.Member) (issuer audience : Text) :
    Prop extends Claiming payload members where
  issuer_eq : Json.lookup members "iss" = some (.text issuer)
  names : Names members audience

/-- The claims of a payload name an expiry that is still to come. -/
structure Lasting (payload : List UInt8) (members : List Json.Member) (issuer audience : Text)
    (now : Date) (expiry : Number) : Prop extends Meant payload members issuer audience where
  expiry_eq : Json.lookup members "exp" = some (.number expiry)
  not_reached : ¬HasReached now expiry

/-- The verdict on the claims of a payload, by the first one that fails. -/
inductive Judged (payload : List UInt8) (issuer audience keyId : Text) (now : Date) :
    Verdict → Prop
  | noObject (h : ∀ members, Json.ofBytes? payload ≠ some (.object members)) :
    Judged payload issuer audience keyId now (.error .invalidClaims)
  | notTyped {members : List Json.Member}
    (hobject : Json.ofBytes? payload = some (.object members))
    (h : ¬Typed members) : Judged payload issuer audience keyId now (.error .invalidClaims)
  | issuerMismatch {members : List Json.Member} (hclaiming : Claiming payload members)
    (h : Json.lookup members "iss" ≠ some (.text issuer)) :
    Judged payload issuer audience keyId now (.error .issuerMismatch)
  | audienceMismatch {members : List Json.Member} (hclaiming : Claiming payload members)
    (hissuer : Json.lookup members "iss" = some (.text issuer)) (h : ¬Names members audience) :
    Judged payload issuer audience keyId now (.error .audienceMismatch)
  | noExpiry {members : List Json.Member} (hmeant : Meant payload members issuer audience)
    (h : Json.lookup members "exp" = none) :
    Judged payload issuer audience keyId now (.error .invalidClaims)
  | expired {members : List Json.Member} {expiry : Number}
    (hmeant : Meant payload members issuer audience)
    (hexpiry : Json.lookup members "exp" = some (.number expiry)) (h : HasReached now expiry) :
    Judged payload issuer audience keyId now (.error .expired)
  | notYetValid {members : List Json.Member} {expiry start : Number}
    (hlasting : Lasting payload members issuer audience now expiry)
    (hstart : Json.lookup members "nbf" = some (.number start)) (h : IsBefore now start) :
    Judged payload issuer audience keyId now (.error .notYetValid)
  | missingSubject {members : List Json.Member} {expiry : Number}
    (hlasting : Lasting payload members issuer audience now expiry)
    (hstart : ∀ start, Json.lookup members "nbf" = some (.number start) → ¬IsBefore now start)
    (h : ∀ subject, Json.lookup members "sub" = some (.text subject) → subject = "") :
    Judged payload issuer audience keyId now (.error .missingSubject)
  | verified {members : List Json.Member} {expiry : Number} {subject : Text}
    (hlasting : Lasting payload members issuer audience now expiry)
    (hstart : ∀ start, Json.lookup members "nbf" = some (.number start) → ¬IsBefore now start)
    (hsubject : Json.lookup members "sub" = some (.text subject)) (hne : subject ≠ "") :
    Judged payload issuer audience keyId now
      (.ok
        { subject, issuer := .text issuer, audience := .text audience,
          expiresAt := dateOfSeconds expiry,
          tokenUse := (Json.lookup members "token_use").bind Json.Value.text?,
          keyId := .text keyId })

/-- Every payload has a verdict. -/
theorem exists_judged (payload : List UInt8) (issuer audience keyId : Text) (now : Date) :
    ∃ verdict, Judged payload issuer audience keyId now verdict := by
  -- the checks in their order: each one either decides or goes into the premise of the next
  by_cases hobject : ∃ members, Json.ofBytes? payload = some (.object members)
  swap
  · push Not at hobject
    exact ⟨_, .noObject hobject⟩
  obtain ⟨members, hobject⟩ := hobject
  by_cases htyped : Typed members
  swap
  · exact ⟨_, .notTyped hobject htyped⟩
  have hclaiming : Claiming payload members := ⟨hobject, htyped⟩
  by_cases hissuer : Json.lookup members "iss" = some (.text issuer)
  swap
  · exact ⟨_, .issuerMismatch hclaiming hissuer⟩
  by_cases hnames : Names members audience
  swap
  · exact ⟨_, .audienceMismatch hclaiming hissuer hnames⟩
  have hmeant : Meant payload members issuer audience := ⟨hclaiming, hissuer, hnames⟩
  rcases hvalue : Json.lookup members "exp" with _ | value
  · exact ⟨_, .noExpiry hmeant hvalue⟩
  obtain ⟨expiry, hexpiry⟩ := Option.isSome_iff_exists.1 (htyped.expiry value hvalue)
  rw [Json.Value.number?_eq_some_iff] at hexpiry
  subst hexpiry
  by_cases hreached : HasReached now expiry
  · exact ⟨_, .expired hmeant hvalue hreached⟩
  have hlasting : Lasting payload members issuer audience now expiry :=
    ⟨hmeant, hvalue, hreached⟩
  by_cases hearly : ∃ start, Json.lookup members "nbf" = some (.number start) ∧
    IsBefore now start
  · obtain ⟨start, hstart, hbefore⟩ := hearly
    exact ⟨_, .notYetValid hlasting hstart hbefore⟩
  push Not at hearly
  by_cases hsubject : ∃ subject, Json.lookup members "sub" = some (.text subject) ∧
    subject ≠ ""
  · obtain ⟨subject, hsubject, hne⟩ := hsubject
    exact ⟨_, .verified hlasting hearly hsubject hne⟩
  push Not at hsubject
  exact ⟨_, .missingSubject hlasting hearly hsubject⟩

/-! ### The checks of the claims -/

theorem issuer_same_iff {members : List Json.Member} {issuer : Text} :
    (Datum.ofText? ((Json.lookup members "iss").bind Json.Value.text?)).same
      (.text issuer) = true ↔ Json.lookup members "iss" = some (.text issuer) := by
  rw [← bind_text?_eq_some_iff]
  rcases (Json.lookup members "iss").bind Json.Value.text? with _ | t
  · simp [Datum.ofText?, Datum.ofOption, Datum.same]
  · rw [Option.some_inj]
    exact Datum.text_same_text_iff

theorem mapM_text?_eq_some_iff {items : List Json.Value} {names : List Text} :
    items.mapM Json.Value.text? = some names ↔ items = names.map .text := by
  induction items generalizing names with
  | nil => cases names <;> simp
  | cons item rest ih =>
    rw [List.mapM_cons, Option.bind_eq_bind, Option.bind_eq_some_iff]
    simp only [Option.bind_eq_bind, Option.bind_eq_some_iff, Json.Value.text?_eq_some_iff, ih,
      Option.pure_def, Option.some_inj]
    constructor
    · rintro ⟨name, rfl, names, rfl, rfl⟩
      rfl
    · intro h
      cases names with
      | nil => cases h
      | cons name names =>
        rw [List.map_cons, List.cons.injEq] at h
        exact ⟨name, h.1, names, h.2, rfl⟩

/-- The audience that a check looks for is among those named. -/
theorem audiences_any_same_iff {members : List Json.Member} {audience : Text}
    (h : Readable audiences? members "aud") :
    ((((Json.lookup members "aud").bind audiences?).getD []).any
      (Datum.text · |>.same (.text audience))) = true ↔ Names members audience := by
  unfold Names
  rcases hvalue : Json.lookup members "aud" with _ | value
  · simp
  · obtain ⟨names, hnames⟩ := Option.isSome_iff_exists.1 (h value hvalue)
    cases value with
    | text name =>
      simp [audiences?]
    | array items =>
      have hitems : items = names.map .text := mapM_text?_eq_some_iff.1 hnames
      subst hitems
      simp [hnames]
    | _ => simp [audiences?] at hnames

theorem clockSecond?_ofMillis {millis : ℤ} {second : ℤ}
    (h : clockSecond? (.ofMillis millis) = some second) :
    Date.ofMillis millis = .valid millis ∧ second = millis / 1000 ∧
      Number.ofInt second = .finite ((millis / 1000 : ℤ) : ℚ) := by
  unfold Date.ofMillis at h ⊢
  split_ifs at h ⊢ with hrange
  · -- the range of dates is well within 53 bits, so no second is rounded
    obtain rfl : millis / 1000 = second := Option.some_inj.1 h
    refine ⟨rfl, rfl, Number.ofInt_eq_finite ?_⟩
    unfold Date.range at hrange
    omega
  · simp [clockSecond?, Date.millis?] at h

theorem isExpired_iff {expiry : Number} {millis : ℤ} :
    isExpired expiry (.ofMillis millis) = true ↔ HasReached (.ofMillis millis) expiry := by
  unfold isExpired HasReached
  rcases hsecond : clockSecond? (.ofMillis millis) with _ | second
  · constructor
    · intro h
      exact absurd h Bool.false_ne_true
    · rintro ⟨other, hother, -⟩
      rw [hother] at hsecond
      cases hsecond
  · obtain ⟨hvalid, rfl, hnumber⟩ := clockSecond?_ofMillis hsecond
    rw [hvalid]
    simp only [Date.valid.injEq, exists_eq_left', hnumber]

theorem isEarly_iff {start : Number} {millis : ℤ} :
    isEarly start (.ofMillis millis) = true ↔ IsBefore (.ofMillis millis) start := by
  unfold isEarly IsBefore
  rcases hsecond : clockSecond? (.ofMillis millis) with _ | second
  · constructor
    · intro h
      exact absurd h Bool.false_ne_true
    · rintro ⟨other, hother, -⟩
      rw [hother] at hsecond
      cases hsecond
  · obtain ⟨hvalid, rfl, hnumber⟩ := clockSecond?_ofMillis hsecond
    rw [hvalid]
    simp only [Date.valid.injEq, exists_eq_left', hnumber]

section

variable {payload : List UInt8} {members : List Json.Member} {issuer audience keyId : Text}
  {millis : ℤ} {expiry : Number}

theorem Claiming.checkPayload_eq (h : Claiming payload members) (expected : Expected)
    (keyId : Datum) (now : Date) :
    checkPayload payload expected keyId now = (claimsOf members).check expected keyId now := by
  unfold checkPayload
  rw [ofPayload?_eq_some_iff.2 ⟨members, h.object_eq, h.typed, rfl⟩]

/-- Once the issuer and the audience are those expected, the expiry decides next. -/
theorem Meant.checkPayload_eq (h : Meant payload members issuer audience) (keyId : Datum)
    (now : Date) :
    checkPayload payload ⟨.text issuer, .text audience⟩ keyId now =
      match (Json.lookup members "exp").bind Json.Value.number? with
      | none => .error .invalidClaims
      | some expiry =>
        if isExpired expiry now then .error .expired
        else if ((Json.lookup members "nbf").bind Json.Value.number?).any (isEarly · now) then
          .error .notYetValid
        else
          match (Json.lookup members "sub").bind Json.Value.text? with
          | none => .error .missingSubject
          | some subject =>
            if subject = "" then .error .missingSubject
            else .ok
              { subject, issuer := .text issuer, audience := .text audience,
                expiresAt := dateOfSeconds expiry,
                tokenUse := (Json.lookup members "token_use").bind Json.Value.text?,
                keyId } := by
  have hissuer := issuer_same_iff.2 h.issuer_eq
  have haudience := (audiences_any_same_iff h.typed.audience).2 h.names
  rw [h.toClaiming.checkPayload_eq]
  unfold Claims.check claimsOf
  rewrite [if_neg (not_not.2 hissuer), if_neg (not_not.2 haudience)]
  rfl

/-- Once the expiry is to come, the start decides next, and then the subject. -/
theorem Lasting.checkPayload_eq
    (h : Lasting payload members issuer audience (.ofMillis millis) expiry) (keyId : Datum) :
    checkPayload payload ⟨.text issuer, .text audience⟩ keyId (.ofMillis millis) =
      if ((Json.lookup members "nbf").bind Json.Value.number?).any
        (isEarly · (.ofMillis millis)) then
        .error .notYetValid
      else
        match (Json.lookup members "sub").bind Json.Value.text? with
        | none => .error .missingSubject
        | some subject =>
          if subject = "" then .error .missingSubject
          else .ok
            { subject, issuer := .text issuer, audience := .text audience,
              expiresAt := dateOfSeconds expiry,
              tokenUse := (Json.lookup members "token_use").bind Json.Value.text?,
              keyId } := by
  have hexpiry : (Json.lookup members "exp").bind Json.Value.number? = some expiry := by
    rw [h.expiry_eq]
    rfl
  rw [h.toMeant.checkPayload_eq, hexpiry]
  exact if_neg (mt isExpired_iff.1 h.not_reached)

theorem checkPayload_of_none (h : ∀ claims, Claims.ofPayload? payload ≠ some claims)
    (expected : Expected) (keyId : Datum) (now : Date) :
    checkPayload payload expected keyId now = .error .invalidClaims := by
  unfold checkPayload
  rw [Option.eq_none_iff_forall_ne_some.2 h]

theorem any_isEarly_iff :
    ((Json.lookup members "nbf").bind Json.Value.number?).any (isEarly · (.ofMillis millis)) =
      true ↔ ∃ start, Json.lookup members "nbf" = some (.number start) ∧
        IsBefore (.ofMillis millis) start := by
  have hread : ∀ start, (Json.lookup members "nbf").bind Json.Value.number? = some start ↔
      Json.lookup members "nbf" = some (.number start) := by
    simp [Option.bind_eq_some_iff]
  rw [Option.any_eq_true]
  simp only [hread, isEarly_iff]

/-- The verdict on the claims is the one that the checks give. -/
theorem Judged.checkPayload_eq {verdict : Verdict}
    (h : Judged payload issuer audience keyId (.ofMillis millis) verdict) :
    checkPayload payload ⟨.text issuer, .text audience⟩ (.text keyId) (.ofMillis millis) =
      verdict := by
  cases h with
  | noObject hobject =>
    rw [checkPayload_of_none]
    rintro claims hclaims
    obtain ⟨members, hvalue, -⟩ := ofPayload?_eq_some_iff.1 hclaims
    exact hobject members hvalue
  | notTyped hobject htyped =>
    rw [checkPayload_of_none]
    rintro claims hclaims
    obtain ⟨members, hvalue, hmembers, -⟩ := ofPayload?_eq_some_iff.1 hclaims
    rw [hobject, Option.some_inj, Json.Value.object.injEq] at hvalue
    exact htyped (hvalue ▸ hmembers)
  | issuerMismatch hclaiming hissuer =>
    rw [hclaiming.checkPayload_eq]
    exact if_pos (mt issuer_same_iff.1 hissuer)
  | audienceMismatch hclaiming hissuer hnames =>
    rw [hclaiming.checkPayload_eq]
    exact (if_neg (not_not.2 (issuer_same_iff.2 hissuer))).trans
      (if_pos (mt (audiences_any_same_iff hclaiming.typed.audience).1 hnames))
  | noExpiry hmeant hexpiry =>
    rw [hmeant.checkPayload_eq, hexpiry]
    rfl
  | expired hmeant hexpiry hreached =>
    rw [hmeant.checkPayload_eq, hexpiry]
    exact if_pos (isExpired_iff.2 hreached)
  | notYetValid hlasting hstart hbefore =>
    rw [hlasting.checkPayload_eq, hstart]
    exact if_pos (isEarly_iff.2 hbefore)
  | missingSubject hlasting hstart hsubject =>
    rw [hlasting.checkPayload_eq, if_neg (mt any_isEarly_iff.1 (by simpa using hstart))]
    rcases hread : (Json.lookup _ "sub").bind Json.Value.text? with _ | subject
    · rfl
    · exact if_pos (hsubject subject (bind_text?_eq_some_iff.1 hread))
  | verified hlasting hstart hsubject hne =>
    rw [hlasting.checkPayload_eq, if_neg (mt any_isEarly_iff.1 (by simpa using hstart)),
      hsubject]
    exact if_neg hne

/-- The claims of a payload are judged as the checks judge them. -/
theorem checkPayload_eq_iff {verdict : Verdict} :
    checkPayload payload ⟨.text issuer, .text audience⟩ (.text keyId) (.ofMillis millis) =
      verdict ↔ Judged payload issuer audience keyId (.ofMillis millis) verdict := by
  constructor
  · -- some verdict is described, and the checks give it, so it is the one that they give
    rintro rfl
    obtain ⟨verdict, hjudged⟩ := exists_judged payload issuer audience keyId (.ofMillis millis)
    rw [hjudged.checkPayload_eq]
    exact hjudged
  · exact Judged.checkPayload_eq

end

/-! ### The verdict -/

/-- The verdict on a token, by the first check that fails, and the state that the key source is
left in: it is asked for the key that the header names, once, and for no other. -/
inductive Decided {σ : Type} (keys : KeyLookup σ) (token issuer audience : Text) (now : Date)
    (s : σ) : Verdict → σ → Prop
  | malformed (h : ∀ parts members, ¬Formed token parts members) :
    Decided keys token issuer audience now s (.error .malformed) s
  | algorithmNotAllowed {parts : Parts} {members : List Json.Member}
    (hformed : Formed token parts members)
    (h : Json.lookup members "alg" ≠ some (.text allowedAlgorithm)) :
    Decided keys token issuer audience now s (.error .algorithmNotAllowed) s
  | missingKeyId {parts : Parts} {members : List Json.Member}
    (hformed : Formed token parts members)
    (halgorithm : Json.lookup members "alg" = some (.text allowedAlgorithm))
    (h : ∀ keyId, Json.lookup members "kid" = some (.text keyId) → keyId = "") :
    Decided keys token issuer audience now s (.error .missingKeyId) s
  | unknownKey {parts : Parts} {members : List Json.Member} {keyId : Text} {fault : KeyFault}
    {s' : σ} (hnamed : Named token parts members keyId)
    (h : keys keyId s = (.error (.keySet fault), s')) :
    Decided keys token issuer audience now s (.error .unknownKey) s'
  | invalidSignature {parts : Parts} {members : List Json.Member} {keyId : Text}
    {key : SigningKey} {s' : σ} (hnamed : Named token parts members keyId)
    (hkey : keys keyId s = (.ok key, s'))
    (h : ∀ payload, ¬Signed parts members key.key payload) :
    Decided keys token issuer audience now s (.error .invalidSignature) s'
  | judged {parts : Parts} {members : List Json.Member} {keyId : Text} {key : SigningKey}
    {payload : List UInt8} {verdict : Verdict} {s' : σ}
    (hnamed : Named token parts members keyId) (hkey : keys keyId s = (.ok key, s'))
    (hsigned : Signed parts members key.key payload)
    (h : Judged payload issuer audience keyId now verdict) :
    Decided keys token issuer audience now s verdict s'

section

variable {σ : Type} {keys : KeyLookup σ} {token issuer audience : Text} {millis : ℤ} {s s' : σ}

/-- What is decided on a token is what verification gives. -/
theorem Decided.verify_eq {verdict : Verdict}
    (h : Decided keys token issuer audience (.ofMillis millis) s verdict s') :
    verify keys token ⟨.text issuer, .text audience⟩ (.ofMillis millis) s =
      (.ok verdict, s') := by
  unfold verify
  cases h with
  | malformed hformed => rw [read_of_not_formed hformed]
  | algorithmNotAllowed hformed halgorithm => rw [hformed.read_of_algorithm halgorithm]
  | missingKeyId hformed halgorithm hkeyId => rw [hformed.read_of_keyId halgorithm hkeyId]
  | unknownKey hnamed hkey => simp only [hnamed.read_eq, hkey]
  | invalidSignature hnamed hkey hsigned =>
    -- no payload is signed, so none is verified
    have hpayload := Option.eq_none_iff_forall_ne_some.2 fun payload hpayload =>
      hsigned payload (hnamed.verifiedPayload?_eq_some_iff.1 hpayload)
    simp only [hnamed.read_eq, hkey, judge, hpayload]
  | judged hnamed hkey hsigned hjudged =>
    have hpayload := hnamed.verifiedPayload?_eq_some_iff.2 hsigned
    simp only [hnamed.read_eq, hkey, judge, hpayload, checkPayload_eq_iff.2 hjudged]

/-- Something is decided on every token, unless it names a key and the source fails by
itself. -/
theorem exists_decided (keys : KeyLookup σ) (token issuer audience : Text) (now : Date)
    (s : σ) : (∃ verdict s', Decided keys token issuer audience now s verdict s') ∨
      ∃ parts members keyId message s', Named token parts members keyId ∧
        keys keyId s = (.error (.broken message), s') := by
  rcases named_cases token with ⟨parts, members, keyId, hnamed⟩ | hformed |
    ⟨parts, members, hformed, halgorithm⟩ | ⟨parts, members, hformed, halgorithm, hkeyId⟩
  · rcases hkey : keys keyId s with ⟨(fault | message) | key, s'⟩
    · exact Or.inl ⟨_, _, .unknownKey hnamed hkey⟩
    · exact Or.inr ⟨parts, members, keyId, message, s', hnamed, hkey⟩
    · by_cases hsigned : ∃ payload, Signed parts members key.key payload
      · obtain ⟨payload, hsigned⟩ := hsigned
        obtain ⟨verdict, hjudged⟩ := exists_judged payload issuer audience keyId now
        exact Or.inl ⟨_, _, .judged hnamed hkey hsigned hjudged⟩
      · push Not at hsigned
        exact Or.inl ⟨_, _, .invalidSignature hnamed hkey hsigned⟩
  · exact Or.inl ⟨_, _, .malformed hformed⟩
  · exact Or.inl ⟨_, _, .algorithmNotAllowed hformed halgorithm⟩
  · exact Or.inl ⟨_, _, .missingKeyId hformed halgorithm hkeyId⟩

/-- A source that fails by itself gives no verdict but its failure. -/
theorem Named.verify_of_broken {parts : Parts} {members : List Json.Member}
    {keyId message : Text} (h : Named token parts members keyId)
    (hkey : keys keyId s = (.error (.broken message), s'))
    (expected : Expected) (now : Date) :
    verify keys token expected now s = (.error message, s') := by
  unfold verify
  simp only [h.read_eq, hkey]

end

/-- Verification is decided by the first check that fails. For every token, key source, state
of it, issuer, audience and time, the verdict is the one described, and there is no verdict
exactly where the header names a key and the source fails by itself. -/
theorem verify_decided {σ : Type} (keys : KeyLookup σ) (token issuer audience : Text)
    (millis : ℤ) (s : σ) :
    (∀ verdict s',
      verify keys token ⟨.text issuer, .text audience⟩ (.ofMillis millis) s =
        (.ok verdict, s') ↔
        Decided keys token issuer audience (.ofMillis millis) s verdict s') ∧
      ∀ message s',
        verify keys token ⟨.text issuer, .text audience⟩ (.ofMillis millis) s =
            (.error message, s') ↔
          ∃ parts members keyId, Named token parts members keyId ∧
            keys keyId s = (.error (.broken message), s') := by
  -- either there is a decision or the look-up breaks, and each side says what the other rules
  -- out
  rcases exists_decided keys token issuer audience (.ofMillis millis) s with
    ⟨verdict, t, hdecided⟩ | ⟨parts, members, keyId, message, t, hnamed, hkey⟩
  · have hverify := hdecided.verify_eq
    refine ⟨fun other s' => ⟨?_, Decided.verify_eq⟩, fun message s' => ⟨?_, ?_⟩⟩
    · intro h
      rw [hverify, Prod.mk.injEq, Except.ok.injEq] at h
      obtain ⟨rfl, rfl⟩ := h
      exact hdecided
    · intro h
      rw [hverify] at h
      cases h
    · rintro ⟨parts, members, keyId, hnamed, hkey⟩
      exact hnamed.verify_of_broken hkey _ _
  · have hverify :=
      hnamed.verify_of_broken hkey ⟨.text issuer, .text audience⟩ (.ofMillis millis)
    refine ⟨fun verdict s' => ⟨?_, ?_⟩, fun other s' => ⟨?_, ?_⟩⟩
    · intro h
      rw [hverify] at h
      cases h
    · exact Decided.verify_eq
    · intro h
      rw [hverify, Prod.mk.injEq, Except.error.injEq] at h
      obtain ⟨rfl, rfl⟩ := h
      exact ⟨parts, members, keyId, hnamed, hkey⟩
    · rintro ⟨parts', members', keyId', hnamed', hkey'⟩
      exact hnamed'.verify_of_broken hkey' _ _

/-! ### A signature alone -/

/-- A key under which a signature is its own power. -/
def firstPowerKey : Rsa.Key := ⟨List.replicate 256 0xFF, [1]⟩

/-- A token whose header asks for the extension `exp`, signed under that key. -/
def criticalParts : Parts :=
  { header := "eyJhbGciOiJSUzI1NiIsImtpZCI6ImsiLCJjcml0IjpbImV4cCJdLCJleHAiOjF9"
    payload := "eyJzdWIiOiJzIiwiaXNzIjoiaSIsImF1ZCI6ImEiLCJleHAiOjl9"
    signature := "AAH_" ++ ⟨List.replicate 268 0x5F⟩ ++
      "ADAxMA0GCWCGSAFlAwQCAQUABCBsVjpTy4udmTXw6UHc6axeRIxA3VIiWFItZBXV_8ze9Q" }

/-- The members of its header. -/
def criticalMembers : List Json.Member :=
  [("alg", .text allowedAlgorithm), ("kid", .text "k"), ("crit", .array [.text "exp"]),
    ("exp", .number (.finite 1))]

/-- The token as it is written. -/
def criticalToken : Text :=
  criticalParts.header ++ "." ++ criticalParts.payload ++ "." ++ criticalParts.signature

/-- A signature that verifies over the first two parts is not enough: where the header asks for
an extension that is not understood, the token is refused as one whose signature does not
verify, though everything it says would be accepted. -/
theorem critical_extension_refused :
    Named criticalToken criticalParts criticalMembers "k" ∧
      Rsa.verifies firstPowerKey
        (Utf8.encode (criticalParts.header ++ "." ++ criticalParts.payload))
        (Base64.decode criticalParts.signature) = true ∧
      Judged (Base64.decode criticalParts.payload) "i" "a" "k" (.ofMillis 0)
        (.ok ⟨"s", .text "i", .text "a", .ofMillis 9000, none, .text "k"⟩) ∧
      verify (fun keyId s => (.ok ⟨keyId, firstPowerKey⟩, s)) criticalToken
        ⟨.text "i", .text "a"⟩ (.ofMillis 0) () = (.ok (.error .invalidSignature), ()) := by
  refine ⟨⟨⟨⟨rfl, ?_, ?_, ?_⟩, ?_, ?_⟩, ?_, ?_, ?_⟩, ?_, checkPayload_eq_iff.1 ?_, ?_⟩ <;>
    decide +kernel

end Token

end TodoServer
