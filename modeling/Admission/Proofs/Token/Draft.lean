import Admission.Proofs.Bytes.Base64
import Admission.Proofs.Json.Writing
import Admission.Proofs.KeySet.Publication
import Admission.Proofs.Text.Splitting
import Admission.Proofs.Token.Verification

/-!
# Written tokens

A token written from a header, claims and a signature is read as these. No symbol of
base64 is a dot, so the last two dots are the ones between the parts.
-/

namespace Admission

/-- The last separator is found in front of what holds none. -/
theorem Text.splitLast?_append {separator : Char} {front last : List Char}
    (absent : separator ∉ last) :
    splitLast? separator (front ++ separator :: last) = some (front, last) := by
  have found : splitOnce? separator (last.reverse ++ separator :: front.reverse) =
      some (last.reverse, front.reverse) :=
    splitOnce?_append (by simpa using absent) front.reverse
  simp [splitLast?, found]

namespace Token

/-- No symbol of base64 is a dot. -/
theorem dot_notMem_encode (bytes : Bytes) : '.' ∉ Base64.encode .urlSafe bytes := by
  have symbols : ∀ value < 64, Base64.Variant.urlSafe.symbol value ≠ '.' := by decide
  have all : ∀ symbol ∈ Base64.encode .urlSafe bytes, symbol ≠ '.' :=
    Base64.forall_mem_encode symbols (fun padded => nomatch padded) bytes
  exact fun member => all '.' member rfl

/-- A token before it is written. -/
structure Draft where
  header : List (String × Json)
  claims : Claims
  signature : Bytes

namespace Draft

/-- A part that is a JSON object. -/
def part (members : List (String × Json)) : List Char :=
  Base64.encode .urlSafe (Bytes.ofText (Json.write (.object members)))

/-- The written parts. -/
def parts (draft : Draft) : Compact :=
  ⟨part draft.header, part draft.claims, Base64.encode .urlSafe draft.signature⟩

/-- The written token. -/
def token (draft : Draft) : String :=
  String.ofList (draft.parts.header ++ '.' :: draft.parts.payload ++ '.' :: draft.parts.signature)

/-- Header and claims are written so that they are read back. -/
structure Legible (draft : Draft) : Prop where
  header : Json.legible Json.Reading.depthLimit (.object draft.header) = true
  claims : Json.legible Json.Reading.depthLimit (.object draft.claims) = true

variable {draft : Draft} {key : RsaKey} {header : Header} {members : List (String × Json)}

theorem ofToken_token : Compact.ofToken draft.token = .ok draft.parts := by
  have outer : Text.splitLast? '.' draft.token.toList =
      some (draft.parts.header ++ '.' :: draft.parts.payload, draft.parts.signature) := by
    rw [token, String.toList_ofList]
    exact Text.splitLast?_append (dot_notMem_encode _)
  have inner : Text.splitLast? '.' (draft.parts.header ++ '.' :: draft.parts.payload) =
      some (draft.parts.header, draft.parts.payload) :=
    Text.splitLast?_append (dot_notMem_encode _)
  simp only [Compact.ofToken, outer, inner]

theorem partMembers_part (legible : Json.legible Json.Reading.depthLimit (.object members) = true) :
    partMembers (part members) = .ok members := by
  have written : partBytes (part members) = .ok (Bytes.ofText (Json.write (.object members))) := by
    simp only [partBytes, part, Base64.decode?_encode]
  have read : (Json.ofBytes? (Bytes.ofText (Json.write (.object members)))).bind Json.members? =
      some members := by
    rw [Json.ofBytes?_write legible]
    rfl
  rw [partMembers, written]
  simp only [bind, Except.bind, read]

/-- The header of a written token is the one its members describe. -/
theorem header_ofToken_token (legible : draft.Legible)
    (described : Header.ofMembers? draft.header = some header) :
    Header.ofToken draft.token = .ok header := by
  have read : partMembers draft.parts.header = .ok draft.header := partMembers_part legible.header
  simp only [Header.ofToken, ofToken_token, bind, Except.bind, read, described]

/-- A written token is signed under a key that verifies its signature. -/
theorem signedWith_token (legible : draft.Legible)
    (right : key.verifies draft.parts.signed draft.signature = true) :
    SignedWith key draft.token draft.claims := by
  have written : partBytes draft.parts.signature = .ok draft.signature := by
    simp only [partBytes, parts, Base64.decode?_encode]
  exact ⟨draft.parts, draft.signature, ofToken_token, written, right,
    partMembers_part legible.claims⟩

end Draft

namespace Sample

/-- A key of 1024 bits. -/
def key : RsaKey where
  modulus := Bytes.ofNat 128
    142350268154713728191589924193057469209203804315893123793194332273449546001669737112373828689658925728223331716892699575369593276899536578171856011894286144283066969858329587504102857085350088833560890395022817986511896688393887185717428739904169154623873231383649747298651847717780792940577850874798373831283
  exponent := [1, 0, 1]

/-- The header of tokens signed with the key. -/
def header : Header where
  algorithm := "RS256"
  keyId := some "key-a"
  members := [("typ", .text "JWT"), ("alg", .text "RS256"), ("kid", .text "key-a")]

/-- What the tokens say beside their issuer. -/
def commonClaims : Claims :=
  [("aud", .text "demo"), ("sub", .text "fuid"), ("auth_time", .nat 1000000000),
    ("iat", .nat 1000000000), ("exp", .nat 4102444800), ("roles", .array [.text "admin"])]

/-- A token that leaves its issuer out. -/
def unissued : Draft where
  header := header.members
  claims := commonClaims
  signature := Bytes.ofNat 128
    64348982744513015707708774520386089481808930891894650228942552212732368076803457052311319473019654106729203564618621345522236556757450879868784005291910420390916808904334294237718533704827435342184142545912019963721664896208850244097911892987579813154187710169461316147481203291132093676851370650073031474825

/-- A token issued for a project. -/
def issued : Draft where
  header := header.members
  claims := ("iss", .text "https://securetoken.google.com/demo") :: commonClaims
  signature := Bytes.ofNat 128
    41635556622535211061333663872399884272982625291353589633974691538431668253793414291103212206457265212476864633753920122087971553919317453860428928651335774461887147947945803816102465087907341212882472345852853636091541477704681617601378762237010261567443197214966645114875882960898342643521748787316852610589

/-- The answer that publishes the key. -/
def reply : Reply := .publishing [] [("key-a", key)]

theorem fetched_valid : Instant.Valid 1700000000 0 := by decide

/-- When the key is fetched. -/
def fetched : Instant := ⟨1700000000, 0, fetched_valid⟩

theorem unissued_legible : unissued.Legible := ⟨by decide, by decide⟩

theorem issued_legible : issued.Legible := ⟨by decide, by decide⟩

theorem ofMembers?_header : Header.ofMembers? header.members = some header := rfl

theorem signedWith_unissued : SignedWith key unissued.token unissued.claims :=
  Draft.signedWith_token unissued_legible (by decide +kernel)

theorem signedWith_issued : SignedWith key issued.token issued.claims :=
  Draft.signedWith_token issued_legible (by decide +kernel)

/-- A cold cache holds the key once it has fetched it. -/
theorem holds_key :
    ((KeyCache.cold .standard).keyForHeader fetched header.algorithm header.keyId reply).cache.Holds
      "key-a" key := by
  have brings : KeyCache.evaluate .standard fetched reply =
      .ok (KeySet.listed [("key-a", key)],
        ⟨⟨1700000900, 0, by decide⟩, ⟨1700000450, 0, by decide⟩⟩) :=
    KeyCache.evaluate_publishing rfl (by simp) (by simp)
  have due : (KeyCache.cold .standard).Due fetched := KeyCache.due_of_none rfl
  have known : (KeySet.listed [("key-a", key)]).find? "key-a" = some key := by
    simp [KeySet.listed, KeySet.insert, KeySet.find?]
  have looked := KeyCache.lookup_of_brings due brings known
  have asked : (KeyCache.cold .standard).keyForHeader fetched header.algorithm header.keyId reply =
      (KeyCache.cold .standard).key fetched "key-a" reply := by
    simp [KeyCache.keyForHeader, header]
  rw [asked, ← KeyCache.key_eq_ok_iff, KeyCache.key_eq_lookup.1, looked]

/-- A token that names the key and is signed with it is proven by the key once it is fetched. -/
theorem provenBy_of_signedWith {draft : Draft} (legible : draft.Legible)
    (named : draft.header = header.members) (signed : SignedWith key draft.token draft.claims) :
    ProvenBy ((KeyCache.cold .standard).keyForHeader fetched header.algorithm header.keyId
      reply).cache draft.token header draft.claims where
  read := Draft.header_ofToken_token legible (named ▸ ofMembers?_header)
  algorithm := rfl
  signed := ⟨"key-a", key, rfl, by simp, holds_key, signed⟩

theorem provenBy_issued :
    ProvenBy ((KeyCache.cold .standard).keyForHeader fetched header.algorithm header.keyId
      reply).cache issued.token header issued.claims :=
  provenBy_of_signedWith issued_legible rfl signedWith_issued

theorem provenBy_unissued :
    ProvenBy ((KeyCache.cold .standard).keyForHeader fetched header.algorithm header.keyId
      reply).cache unissued.token header unissued.claims :=
  provenBy_of_signedWith unissued_legible rfl signedWith_unissued

end Sample
end Token
end Admission
