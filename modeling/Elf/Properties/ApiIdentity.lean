import Elf.Api.Routes

/-!
This module contains that a caller of the API is who the token says, whatever else the headers of the request
say, and which tokens of a configuration identify their key.
-/

namespace Elf.Api

open Text

variable {security : Security} {server : Server} {headers seen : HeaderMap} {drawn : Uuid}
  {role : Option SecurityAuthRole} {key other : SecurityAuthKey} {port : Port}

/-! ## Values of headers -/

def isVisibleChar (c : Char) : Bool := (32 ≤ c.toNat && c.toNat < 127) || c.toNat = 9

/-- The text can be read from a header. -/
def isVisibleText (text : String) : Bool := text.toList.all isVisibleChar

theorem utf8EncodeChar_of_lt {c : Char} (h : c.toNat < 128)
    : String.utf8EncodeChar c = [UInt8.ofNat c.toNat] := by
  unfold String.utf8EncodeChar
  exact if_pos (Nat.le_of_lt_succ h)

/-- A character that is not one of ASCII has an octet that is not visible. -/
theorem exists_octet_of_le {c : Char} (h : 128 ≤ c.toNat)
    : ∃ octet ∈ String.utf8EncodeChar c, HeaderValue.isVisible octet = false := by
  -- The last octet holds six bits and the mark of a continuation.
  refine ⟨UInt8.ofNat (c.toNat % 64 + 128), ?_, ?_⟩
  . change _ ∈ ite (c.toNat ≤ 127) _ _
    rw [if_neg (Nat.not_le_of_lt h)]
    split
    . simp
    . split
      . simp
      . simp
  . have hlt : c.toNat % 64 + 128 < 256 := by omega
    have hnat : (UInt8.ofNat (c.toNat % 64 + 128)).toNat = c.toNat % 64 + 128 := by
      simp [UInt8.toNat_ofNat, Nat.mod_eq_of_lt hlt]
    simp only [HeaderValue.isVisible, Bool.or_eq_false_iff, Bool.and_eq_false_iff,
      decide_eq_false_iff_not, UInt8.lt_iff_toNat_lt, UInt8.le_iff_toNat_le, ← UInt8.toNat_inj, hnat]
    refine ⟨.inr ?_, ?_⟩
    . simp
    . simp

theorem isVisible_ofNat {c : Char} (h : c.toNat < 128)
    : HeaderValue.isVisible (UInt8.ofNat c.toNat) = isVisibleChar c := by
  have hnat : (UInt8.ofNat c.toNat).toNat = c.toNat := by
    simp only [UInt8.toNat_ofNat']
    omega
  unfold HeaderValue.isVisible isVisibleChar
  rw [Bool.eq_iff_iff]
  simp only [Bool.or_eq_true, Bool.and_eq_true, decide_eq_true_eq, UInt8.lt_iff_toNat_lt,
    UInt8.le_iff_toNat_le, ← UInt8.toNat_inj, hnat]
  simp

theorem all_isVisible_utf8EncodeChar (c : Char)
    : (String.utf8EncodeChar c).all HeaderValue.isVisible = isVisibleChar c := by
  by_cases h : c.toNat < 128
  . simp [utf8EncodeChar_of_lt h, isVisible_ofNat h]
  . rcases exists_octet_of_le (Nat.le_of_not_lt h) with ⟨octet, hmem, hoctet⟩
    have hall : (String.utf8EncodeChar c).all HeaderValue.isVisible = false := by
      rw [List.all_eq_false]
      exact ⟨octet, hmem, by simp [hoctet]⟩
    rw [hall]
    unfold isVisibleChar
    rw [eq_comm, Bool.or_eq_false_iff, Bool.and_eq_false_iff]
    simp only [decide_eq_false_iff_not]
    omega

theorem all_isVisible_utf8 (text : String)
    : (HeaderValue.utf8 text).all HeaderValue.isVisible = isVisibleText text := by
  unfold HeaderValue.utf8 isVisibleText
  rw [List.all_flatMap]
  congr 1
  funext c
  exact all_isVisible_utf8EncodeChar c

theorem map_utf8_of_isVisible {cs : List Char} (h : cs.all isVisibleChar = true)
    : (cs.flatMap String.utf8EncodeChar).map (fun octet => Char.ofNat octet.toNat) = cs := by
  induction cs with
  | nil => rfl
  | cons c cs ih =>
    rw [List.all_cons, Bool.and_eq_true] at h
    have hlt : c.toNat < 128 := by
      have hvisible := h.1
      simp only [isVisibleChar, Bool.or_eq_true, Bool.and_eq_true, decide_eq_true_eq] at hvisible
      omega
    have hnat : (UInt8.ofNat c.toNat).toNat = c.toNat := by
      simp only [UInt8.toNat_ofNat']
      omega
    rw [List.flatMap_cons, List.map_append, ih h.2, utf8EncodeChar_of_lt hlt]
    simp [hnat]

/-- A text that is put into a header is read from it as it was, or not at all. -/
theorem toStr_utf8 (text : String)
    : HeaderValue.toStr (HeaderValue.utf8 text) = if isVisibleText text then some text else none := by
  unfold HeaderValue.toStr
  rw [all_isVisible_utf8]
  split
  next h =>
    unfold HeaderValue.utf8
    rw [map_utf8_of_isVisible h, String.ofList_toList]
  next => rfl

/-! ## Headers -/

theorem get_insert (headers : HeaderMap) (name other : String) (value : HeaderValue)
    : (headers.insert name value).get other = if other = name then some value else headers.get other := by
  unfold HeaderMap.insert HeaderMap.get HeaderMap.remove
  rw [List.find?_append]
  split
  next h =>
    have hnone : (headers.filter (·.1 ≠ name)).find? (·.1 = other) = none := by
      simp [List.find?_eq_none, h]
    rw [hnone, h]
    simp
  next h =>
    have hlast : [(name, value)].find? (·.1 = other) = none := by
      simp [Ne.symm h]
    rw [hlast, Option.or_none, List.find?_filter]
    congr 2
    funext entry
    by_cases heq : entry.1 = other
    . simp [heq, h]
    . simp [heq]

theorem get_remove (headers : HeaderMap) {name other : String} (h : other ≠ name)
    : (headers.remove name).get other = headers.get other := by
  unfold HeaderMap.get HeaderMap.remove
  rw [List.find?_filter]
  congr 2
  funext entry
  by_cases heq : entry.1 = other
  . simp [heq, h]
  . simp [heq]

theorem get_cons (entry : String × HeaderValue) (headers : HeaderMap) (name : String)
    : HeaderMap.get (entry :: headers) name
        = if entry.1 = name then some entry.2 else headers.get name := by
  unfold HeaderMap.get
  rw [List.find?_cons]
  by_cases h : entry.1 = name
  . simp [h]
  . simp [h]

/-- One value after the other. -/
def insertAll (headers entries : HeaderMap) : HeaderMap :=
  entries.foldl (fun headers entry => headers.insert entry.1 entry.2) headers

theorem get_insertAll {entries : HeaderMap} (hnodup : (entries.map Prod.fst).Nodup) (headers : HeaderMap)
    (name : String) : (insertAll headers entries).get name = (entries.get name).or (headers.get name) := by
  induction entries generalizing headers with
  | nil => rfl
  | cons entry entries ih =>
    rw [List.map_cons, List.nodup_cons] at hnodup
    have htail := ih hnodup.2 (headers.insert entry.1 entry.2)
    unfold insertAll at htail ⊢
    rw [List.foldl_cons, htail, get_insert, get_cons]
    by_cases h : entry.1 = name
    . have hnone : HeaderMap.get entries name = none := by
        unfold HeaderMap.get
        rw [Option.map_eq_none_iff, List.find?_eq_none]
        intro other hother heq
        apply hnodup.1
        rw [h, ← of_decide_eq_true heq]
        exact List.mem_map_of_mem hother
      simp [h, hnone]
    . simp [h, Ne.symm h]

theorem setContextHeader_eq_ok {name value : String}
    : setContextHeader headers name value = .ok seen
      ↔ (HeaderValue.utf8 value).all HeaderValue.isValid = true
        ∧ seen = headers.insert name (HeaderValue.utf8 value) := by
  unfold setContextHeader HeaderValue.parse
  simp only [Except.bind_eq_ok, Except.ofOption_eq_ok, Except.pure_eq_ok,
    Option.ite_none_right_eq_some, Option.some.injEq]
  constructor
  . rintro ⟨_, ⟨hvalid, rfl⟩, rfl⟩
    exact ⟨hvalid, rfl⟩
  . rintro ⟨hvalid, rfl⟩
    exact ⟨_, ⟨hvalid, rfl⟩, rfl⟩

/-! ## Context -/

/-- What the configuration says under each of the names that the middleware sets. -/
def SecurityAuthKey.entries (key : SecurityAuthKey) (agentId : String) : HeaderMap := [
  (headerTenantId, HeaderValue.utf8 key.tenantId),
  (headerProjectId, HeaderValue.utf8 key.projectId),
  (headerAgentId, HeaderValue.utf8 agentId),
  (headerReadProfile, HeaderValue.utf8 key.readProfile),
  (headerTrustedTokenId, HeaderValue.utf8 key.tokenId)]

/-- The values of a key can be put into headers. -/
def SecurityAuthKey.Printable (key : SecurityAuthKey) (agentId : String) : Prop :=
  ∀ entry ∈ key.entries agentId, entry.2.all HeaderValue.isValid = true

theorem applyAuthKeyContext_eq_ok
    : applyAuthKeyContext headers key = .ok seen
      ↔ ∃ agentId, key.agentId = some agentId ∧ key.Printable agentId
        ∧ seen = insertAll headers (key.entries agentId) := by
  simp only [applyAuthKeyContext, Except.bind_eq_ok, Except.ofOption_eq_ok, setContextHeader_eq_ok,
    SecurityAuthKey.Printable, SecurityAuthKey.entries, List.forall_mem_cons]
  constructor
  . rintro ⟨agentId, hagent, _, ⟨htenant, rfl⟩, _, ⟨hproject, rfl⟩, _, ⟨hagentId, rfl⟩, _,
      ⟨hprofile, rfl⟩, htoken, rfl⟩
    exact ⟨agentId, hagent, ⟨htenant, hproject, hagentId, hprofile, htoken, nofun⟩, rfl⟩
  . rintro ⟨agentId, hagent, ⟨htenant, hproject, hagentId, hprofile, htoken, -⟩, rfl⟩
    exact ⟨agentId, hagent, _, ⟨htenant, rfl⟩, _, ⟨hproject, rfl⟩, _, ⟨hagentId, rfl⟩, _,
      ⟨hprofile, rfl⟩, htoken, rfl⟩

theorem get_entries (key : SecurityAuthKey) (agentId : String) (headers : HeaderMap) (name : String)
    : (insertAll headers (key.entries agentId)).get name
        = ((key.entries agentId).get name).or (headers.get name) := by
  apply get_insertAll
  simp [SecurityAuthKey.entries, headerTenantId, headerProjectId, headerAgentId, headerReadProfile,
    headerTrustedTokenId]

/-- The text can be the context of a request. -/
structure Readable (text : String) : Prop where
  visible : isVisibleText text = true
  nonempty : (trim text).isEmpty = false
  short : (trim text).length ≤ maxContextHeaderChars
  identifier : isValidIdentifier (trim text) = true

theorem contextText_utf8 {name text result : String}
    : contextText name (HeaderValue.utf8 text) = .ok result ↔ Readable text ∧ result = trim text := by
  simp only [contextText, Except.bind_eq_ok, Except.ofOption_eq_ok, Except.rejectIf_eq_ok,
    Except.pure_eq_ok, toStr_utf8, Option.ite_none_right_eq_some, Option.some.injEq]
  constructor
  . rintro ⟨_, ⟨hvisible, rfl⟩, _, hnonempty, _, hshort, _, hidentifier, rfl⟩
    refine ⟨⟨hvisible, hnonempty, ?_, ?_⟩, rfl⟩
    . simpa using hshort
    . simpa using hidentifier
  . rintro ⟨⟨hvisible, hnonempty, hshort, hidentifier⟩, rfl⟩
    refine ⟨text, ⟨hvisible, rfl⟩, (), hnonempty, (), ?_, (), ?_, rfl⟩
    . simpa using hshort
    . simpa using hidentifier

/-! ## Callers -/

/-- The caller whose token a request carries. -/
structure Caller (security : Security) (headers : HeaderMap) (port : Port) (key : SecurityAuthKey)
    (agentId : String) : Prop where
  find : security.authKeys.find? (·.token = key.token) = some key
  token : bearerToken headers = some key.token
  agent : key.agentId = some agentId
  admin : port = .admin → isAdminRole key.role = true

theorem Caller.mem {agentId : String} (h : Caller security headers port key agentId)
    : key ∈ security.authKeys := List.mem_of_find?_eq_some h.find

theorem bearerToken_remove (headers : HeaderMap)
    : bearerToken (headers.remove headerTrustedTokenId) = bearerToken headers := by
  unfold bearerToken
  rw [get_remove]
  simp [headerAuthorization, headerTrustedTokenId]

theorem resolveAuthKey_eq_ok {keys : List SecurityAuthKey}
    : resolveAuthKey headers keys = .ok key
      ↔ keys.find? (·.token = key.token) = some key ∧ bearerToken headers = some key.token := by
  simp only [resolveAuthKey, Except.bind_eq_ok, Except.ofOption_eq_ok]
  constructor
  . rintro ⟨token, htoken, hfind⟩
    have heq : key.token = token := by simpa using List.find?_some hfind
    rw [heq]
    exact ⟨hfind, htoken⟩
  . rintro ⟨hfind, htoken⟩
    exact ⟨key.token, htoken, hfind⟩

/-- What the middleware makes of the headers of a request. -/
structure Authenticated (security : Security) (headers : HeaderMap) (port : Port) (seen : HeaderMap)
    (role : Option SecurityAuthRole) (key : SecurityAuthKey) (agentId : String) : Prop where
  caller : Caller security headers port key agentId
  role_eq : role = some key.role
  printable : key.Printable agentId
  seen_eq : seen = insertAll (headers.remove headerTrustedTokenId) (key.entries agentId)

theorem middleware_eq_ok (hmode : trim server.security.authMode = "static_keys")
    : server.middleware headers drawn port = .ok (seen, role)
      ↔ (∃ id, parseRequestIdFromHeaders headers drawn = .ok id)
        ∧ ∃ key agentId, Authenticated server.security headers port seen role key agentId := by
  cases port with
  | api =>
    simp only [Server.middleware, apiAuthMiddleware, hmode, Except.bind_eq_ok, Except.pure_eq_ok,
      applyAuthKeyContext_eq_ok, resolveAuthKey_eq_ok, bearerToken_remove, Prod.mk.injEq]
    constructor
    . rintro ⟨id, hid, key, ⟨hfind, htoken⟩, _, ⟨agentId, hagent, hprintable, rfl⟩, rfl, rfl⟩
      exact ⟨⟨id, hid⟩, key, agentId, ⟨hfind, htoken, hagent, nofun⟩, rfl, hprintable, rfl⟩
    . rintro ⟨⟨id, hid⟩, key, agentId, ⟨hfind, htoken, hagent, -⟩, rfl, hprintable, rfl⟩
      exact ⟨id, hid, key, ⟨hfind, htoken⟩, _, ⟨agentId, hagent, hprintable, rfl⟩, rfl, rfl⟩
  | admin =>
    simp only [Server.middleware, adminAuthMiddleware, hmode, Except.bind_eq_ok, Except.pure_eq_ok,
      Except.rejectIf_eq_ok, applyAuthKeyContext_eq_ok, resolveAuthKey_eq_ok, bearerToken_remove,
      Prod.mk.injEq, Bool.not_eq_false']
    constructor
    . rintro ⟨id, hid, key, ⟨hfind, htoken⟩, _, hadmin, _, ⟨agentId, hagent, hprintable, rfl⟩, rfl, rfl⟩
      exact ⟨⟨id, hid⟩, key, agentId, ⟨hfind, htoken, hagent, fun _ => hadmin⟩, rfl, hprintable, rfl⟩
    . rintro ⟨⟨id, hid⟩, key, agentId, ⟨hfind, htoken, hagent, hadmin⟩, rfl, hprintable, rfl⟩
      exact ⟨id, hid, key, ⟨hfind, htoken⟩, (), hadmin rfl, _, ⟨agentId, hagent, hprintable, rfl⟩, rfl, rfl⟩

namespace Authenticated

variable {agentId : String}

theorem get_eq (h : Authenticated security headers port seen role key agentId) (name : String)
    : seen.get name = ((key.entries agentId).get name).or
        ((headers.remove headerTrustedTokenId).get name) := by
  rw [h.seen_eq]
  exact get_entries key agentId _ name

/-- A header that the middleware sets is the one of the configuration. -/
theorem requiredHeader_eq (h : Authenticated security headers port seen role key agentId)
    (name text : String) (hentry : (key.entries agentId).get name = some (HeaderValue.utf8 text))
    : requiredHeader seen name = contextText name (HeaderValue.utf8 text) := by
  unfold requiredHeader
  rw [h.get_eq, hentry]
  rfl

theorem requiredHeader_eq_ok (h : Authenticated security headers port seen role key agentId)
    (name text : String) (hentry : (key.entries agentId).get name = some (HeaderValue.utf8 text))
    {result : String}
    : requiredHeader seen name = .ok result ↔ Readable text ∧ result = trim text := by
  rw [h.requiredHeader_eq name text hentry, contextText_utf8]

theorem fromHeaders_eq_ok (h : Authenticated security headers port seen role key agentId)
    {ctx : RequestContext}
    : RequestContext.fromHeaders seen = .ok ctx
      ↔ (Readable key.tenantId ∧ Readable key.projectId ∧ Readable agentId)
        ∧ ctx = ⟨trim key.tenantId, trim key.projectId, trim agentId⟩ := by
  simp only [RequestContext.fromHeaders, Except.bind_eq_ok, Except.pure_eq_ok,
    h.requiredHeader_eq_ok headerTenantId key.tenantId rfl,
    h.requiredHeader_eq_ok headerProjectId key.projectId rfl,
    h.requiredHeader_eq_ok headerAgentId agentId rfl]
  constructor
  . rintro ⟨_, ⟨htenant, rfl⟩, _, ⟨hproject, rfl⟩, _, ⟨hagent, rfl⟩, rfl⟩
    exact ⟨⟨htenant, hproject, hagent⟩, rfl⟩
  . rintro ⟨⟨htenant, hproject, hagent⟩, rfl⟩
    exact ⟨_, ⟨htenant, rfl⟩, _, ⟨hproject, rfl⟩, _, ⟨hagent, rfl⟩, rfl⟩

theorem trustedTokenId_eq (h : Authenticated security headers port seen role key agentId)
    : trustedTokenId seen
      = if isVisibleText key.tokenId && !(trim key.tokenId).isEmpty then some (trim key.tokenId)
        else none := by
  have hget : seen.get headerTrustedTokenId = some (HeaderValue.utf8 key.tokenId) := by
    rw [h.get_eq]
    rfl
  unfold trustedTokenId
  rw [hget]
  simp only [Option.bind_eq_bind, Option.bind_some, toStr_utf8]
  cases isVisibleText key.tokenId with
  | true =>
    simp only [if_true, Option.bind_some, Bool.true_and]
    cases (trim key.tokenId).isEmpty with
    | true => rfl
    | false => rfl
  | false => rfl

end Authenticated

/-! ## Configurations -/

/-- What the validation ensures of a key. -/
structure SecurityAuthKey.Valid (key : SecurityAuthKey) : Prop where
  tokenId : (trim key.tokenId).isEmpty = false
  token : (trim key.token).isEmpty = false
  agent : ∃ agentId, key.agentId = some agentId ∧ (trim agentId).isEmpty = false

theorem valid_of_validate {path : String} (h : key.validate path = .ok ()) : key.Valid := by
  simp only [SecurityAuthKey.validate, Except.bind_eq_ok, Except.rejectIf_eq_ok] at h
  rcases h with ⟨_, htokenId, _, htoken, _, -, _, -, _, -, _, -, _, -, hagent⟩
  refine ⟨htokenId, htoken, ?_⟩
  cases hkey : key.agentId with
  | none =>
    rw [hkey] at hagent
    cases hagent
  | some agentId =>
    rw [hkey] at hagent
    exact ⟨agentId, rfl, hagent⟩

theorem valid_of_validateAuthKeys {tokenIds tokens : List String} {idx : Nat}
    {keys : List SecurityAuthKey} (h : validateAuthKeys tokenIds tokens idx keys = .ok ())
    : (∀ key ∈ keys, key.Valid ∧ key.token ∉ tokens ∧ key.tokenId ∉ tokenIds)
      ∧ (keys.map (·.token)).Nodup ∧ (keys.map (·.tokenId)).Nodup := by
  induction keys generalizing tokenIds tokens idx with
  | nil => exact ⟨nofun, List.nodup_nil, List.nodup_nil⟩
  | cons key keys ih =>
    simp only [validateAuthKeys, Except.bind_eq_ok, Except.rejectIf_eq_ok] at h
    rcases h with ⟨_, hkey, _, htokenId, _, htoken, htail⟩
    rcases ih htail with ⟨hkeys, htokens, htokenIds⟩
    refine ⟨?_, ?_, ?_⟩
    . rw [List.forall_mem_cons]
      refine ⟨⟨valid_of_validate hkey, by simpa using htoken, by simpa using htokenId⟩, ?_⟩
      intro other hother
      rcases hkeys other hother with ⟨hvalid, hnot, hnotId⟩
      exact ⟨hvalid, fun h => hnot (List.mem_cons_of_mem _ h), fun h => hnotId (List.mem_cons_of_mem _ h)⟩
    . rw [List.map_cons, List.nodup_cons]
      refine ⟨?_, htokens⟩
      intro hmem
      rcases List.mem_map.mp hmem with ⟨other, hother, heq⟩
      apply (hkeys other hother).2.1
      rw [heq]
      exact List.mem_cons_self
    . rw [List.map_cons, List.nodup_cons]
      refine ⟨?_, htokenIds⟩
      intro hmem
      rcases List.mem_map.mp hmem with ⟨other, hother, heq⟩
      apply (hkeys other hother).2.2
      rw [heq]
      exact List.mem_cons_self

theorem valid_of_static (hvalid : security.validate = .ok ())
    (hmode : trim security.authMode = "static_keys")
    : (∀ key ∈ security.authKeys, key.Valid) ∧ (security.authKeys.map (·.token)).Nodup
      ∧ (security.authKeys.map (·.tokenId)).Nodup := by
  unfold Security.validate at hvalid
  rw [hmode] at hvalid
  simp only [Except.bind_eq_ok] at hvalid
  rcases hvalid with ⟨_, -, hkeys⟩
  rcases valid_of_validateAuthKeys hkeys with ⟨hvalid, htokens, htokenIds⟩
  exact ⟨fun key hkey => (hvalid key hkey).1, htokens, htokenIds⟩

/-! ## Tokens -/

theorem isWhitespace_getLast {text : String} (h : trim text = text) (hne : text.toList ≠ [])
    : isWhitespace (text.toList.getLast hne) = false := by
  have hlist : (text.toList.dropWhile isWhitespace).rdropWhile isWhitespace = text.toList := by
    unfold trim at h
    rw [← String.toList_inj, String.toList_ofList] at h
    exact h
  have hlast := List.rdropWhile_last_not isWhitespace (text.toList.dropWhile isWhitespace)
    (by rw [hlist]; exact hne)
  simp only [hlist] at hlast
  simpa using hlast

/-- A text that begins and ends with characters that are not white space is trimmed. -/
theorem trim_of_ends {c : Char} {cs : List Char} (hfirst : isWhitespace c = false)
    (hlast : isWhitespace ((c :: cs).getLast (List.cons_ne_nil c cs)) = false)
    : trim (String.ofList (c :: cs)) = String.ofList (c :: cs) := by
  unfold trim
  rw [String.toList_ofList, List.dropWhile_cons_of_neg (by simp [hfirst]),
    List.rdropWhile_eq_self_iff.mpr]
  intro _
  simp [hlast]

theorem mem_of_mem_trim {text : String} {c : Char} (h : c ∈ (trim text).toList) : c ∈ text.toList := by
  unfold trim at h
  rw [String.toList_ofList] at h
  exact (List.dropWhile_sublist isWhitespace).subset ((List.rdropWhile_prefix isWhitespace _).subset h)

theorem isVisibleChar_ofNat {octet : UInt8} (h : HeaderValue.isVisible octet = true)
    : isVisibleChar (Char.ofNat octet.toNat) = true := by
  simp only [HeaderValue.isVisible, Bool.or_eq_true, Bool.and_eq_true, decide_eq_true_eq,
    UInt8.lt_iff_toNat_lt, UInt8.le_iff_toNat_le, ← UInt8.toNat_inj] at h
  have hlt : octet.toNat < 128 := by
    have h127 : (127 : UInt8).toNat = 127 := rfl
    have h9 : (9 : UInt8).toNat = 9 := rfl
    omega
  have hchar : (Char.ofNat octet.toNat).toNat = octet.toNat := by
    have hvalid : octet.toNat.isValidChar := .inl (by omega)
    unfold Char.ofNat
    rw [dif_pos hvalid]
    rfl
  unfold isVisibleChar
  rw [hchar]
  simpa using h

theorem isVisibleText_of_toStr {value : HeaderValue} {text : String} (h : value.toStr = some text)
    : isVisibleText text = true := by
  unfold HeaderValue.toStr at h
  split at h
  next hall =>
    cases h
    unfold isVisibleText
    rw [String.toList_ofList, List.all_map, List.all_eq_true]
    intro octet hoctet
    exact isVisibleChar_ofNat (List.all_eq_true.mp hall octet hoctet)
  next => cases h

theorem bearerToken_spec {token : String} (h : bearerToken headers = some token)
    : trim token = token ∧ isVisibleText token = true := by
  simp only [bearerToken, Option.bind_eq_bind, Option.bind_eq_some_iff,
    Option.ite_none_left_eq_some] at h
  rcases h with ⟨raw, -, value, hvalue, stripped, hstripped, -, htoken⟩
  cases htoken
  refine ⟨trim_trim stripped, ?_⟩
  have hvisible := isVisibleText_of_toStr hvalue
  unfold isVisibleText at hvisible ⊢
  rw [List.all_eq_true] at hvisible ⊢
  intro c hc
  apply hvisible
  apply mem_of_mem_trim
  have hmem := mem_of_mem_trim hc
  simp only [stripBearer, Option.ite_none_right_eq_some, Option.some.injEq] at hstripped
  rw [← hstripped.2, String.toList_ofList] at hmem
  exact List.mem_of_mem_drop hmem

/-- The header of a request that carries a token. -/
def bearer (token : String) : String × HeaderValue :=
  (headerAuthorization, HeaderValue.utf8 ("Bearer " ++ token))

theorem bearerToken_bearer {token : String} (htrim : trim token = token)
    (hempty : token.isEmpty = false) (hvisible : isVisibleText token = true)
    : bearerToken [bearer token] = some token := by
  have hne : token.toList ≠ [] := by
    intro h
    rw [String.toList_eq_nil_iff.mp h] at hempty
    cases hempty
  have hlist : ("Bearer " ++ token).toList = "Bearer ".toList ++ token.toList := String.toList_append
  have hstr : HeaderValue.toStr (HeaderValue.utf8 ("Bearer " ++ token)) = some ("Bearer " ++ token) := by
    rw [toStr_utf8, if_pos]
    unfold isVisibleText at hvisible ⊢
    rw [hlist, List.all_append, hvisible, Bool.and_true]
    decide
  have htrimmed : trim ("Bearer " ++ token) = "Bearer " ++ token := by
    have hlast := isWhitespace_getLast htrim hne
    have hofList : "Bearer " ++ token = String.ofList ('B' :: ("earer ".toList ++ token.toList)) := by
      rw [← String.toList_inj, hlist, String.toList_ofList]
      simp
    rw [hofList]
    apply trim_of_ends (by decide)
    rw [List.getLast_cons (by simp), List.getLast_append_of_ne_nil _ hne]
    exact hlast
  have hstrip : stripBearer ("Bearer " ++ token) = some token := by
    unfold stripBearer
    rw [hlist, if_pos]
    . simp
    . simp
  have hget : HeaderMap.get [bearer token] headerAuthorization
      = some (HeaderValue.utf8 ("Bearer " ++ token)) := by
    rw [get_cons]
    exact if_pos rfl
  simp only [bearerToken, hget, hstr, htrimmed, hstrip, htrim, hempty, Option.bind_eq_bind,
    Option.bind_some]
  rfl

/-! ## Identity -/

/-- Nothing but the token matters to what the handlers see of the caller. -/
theorem Authenticated.congr {headers' seen' : HeaderMap} {role' : Option SecurityAuthRole}
    {key' : SecurityAuthKey} {port' : Port} {agentId agentId' : String}
    (h : Authenticated security headers port seen role key agentId)
    (h' : Authenticated security headers' port' seen' role' key' agentId')
    (htoken : bearerToken headers' = bearerToken headers)
    : role' = role ∧ ∀ name ∈ (key.entries agentId).map Prod.fst, seen'.get name = seen.get name := by
  have heq : key'.token = key.token := by
    rw [h.caller.token, h'.caller.token] at htoken
    exact Option.some.inj htoken
  have hkey : key' = key := by
    have hfind := h'.caller.find
    rw [heq, h.caller.find] at hfind
    exact (Option.some.inj hfind).symm
  subst hkey
  have hagent : agentId' = agentId := Option.some.inj (h'.caller.agent.symm.trans h.caller.agent)
  subst hagent
  refine ⟨h'.role_eq.trans h.role_eq.symm, ?_⟩
  intro name hname
  rw [h.get_eq, h'.get_eq]
  have hsome : ∃ value, (key'.entries agentId').get name = some value := by
    rcases List.mem_map.mp hname with ⟨entry, hentry, rfl⟩
    cases hfind : (key'.entries agentId').find? (·.1 = entry.1) with
    | some found => exact ⟨found.2, by simp [HeaderMap.get, hfind]⟩
    | none => exact absurd (List.find?_eq_none.mp hfind entry hentry) (by simp)
  rcases hsome with ⟨value, hvalue⟩
  rw [hvalue]
  rfl

/--
Whatever else the headers of a request say, its handler sees the role, the tenant, the project, the agent,
the read profile and the identifier that the configuration gives to the token, and the same ones for every
request with that token.
-/
theorem identity_of_token (hmode : trim server.security.authMode = "static_keys")
    (h : server.middleware headers drawn port = .ok (seen, role))
    : (∃ key ∈ server.security.authKeys, bearerToken headers = some key.token
        ∧ role = some key.role
        ∧ (port = .admin → isAdminRole key.role = true)
        ∧ (∀ ctx, RequestContext.fromHeaders seen = .ok ctx → ctx.tenantId = trim key.tenantId
          ∧ ctx.projectId = trim key.projectId ∧ key.agentId.map trim = some ctx.agentId)
        ∧ (∀ profile, requiredReadProfile seen = .ok profile → profile = trim key.readProfile)
        ∧ ∀ tokenId, effectiveTokenId server.security.authMode seen = some tokenId →
          tokenId = trim key.tokenId)
      ∧ ∀ headers' drawn' port' seen' role',
        server.middleware headers' drawn' port' = .ok (seen', role') →
        bearerToken headers' = bearerToken headers →
        role' = role ∧ RequestContext.fromHeaders seen' = RequestContext.fromHeaders seen
          ∧ requiredReadProfile seen' = requiredReadProfile seen
          ∧ trustedTokenId seen' = trustedTokenId seen := by
  rcases ((middleware_eq_ok hmode).mp h).2 with ⟨key, agentId, hauth⟩
  refine ⟨⟨key, hauth.caller.mem, hauth.caller.token, hauth.role_eq, hauth.caller.admin, ?_, ?_, ?_⟩, ?_⟩
  . intro ctx hctx
    rcases hauth.fromHeaders_eq_ok.mp hctx with ⟨-, rfl⟩
    exact ⟨rfl, rfl, by simp [hauth.caller.agent]⟩
  . intro profile hprofile
    exact ((hauth.requiredHeader_eq_ok headerReadProfile key.readProfile rfl).mp hprofile).2
  . intro tokenId htokenId
    unfold effectiveTokenId at htokenId
    rw [if_pos hmode, hauth.trustedTokenId_eq, Option.ite_none_right_eq_some] at htokenId
    exact (Option.some.inj htokenId.2).symm
  . intro headers' drawn' port' seen' role' h' htoken
    rcases ((middleware_eq_ok hmode).mp h').2 with ⟨key', agentId', hauth'⟩
    rcases hauth.congr hauth' htoken with ⟨hrole, hget⟩
    have hnames (name : String) (hname : name ∈ (key.entries agentId).map Prod.fst)
        : requiredHeader seen' name = requiredHeader seen name := by
      unfold requiredHeader
      rw [hget name hname]
    refine ⟨hrole, ?_, ?_, ?_⟩
    . unfold RequestContext.fromHeaders
      rw [hnames headerTenantId (by simp [SecurityAuthKey.entries]),
        hnames headerProjectId (by simp [SecurityAuthKey.entries]),
        hnames headerAgentId (by simp [SecurityAuthKey.entries])]
    . exact hnames headerReadProfile (by simp [SecurityAuthKey.entries])
    . unfold trustedTokenId
      rw [hget headerTrustedTokenId (by simp [SecurityAuthKey.entries])]

/-- A user who says to be of another tenant and to have the token of the administrator. -/
def spoofed : HeaderMap := [
  (headerTenantId, HeaderValue.utf8 "u"),
  (headerTrustedTokenId, HeaderValue.utf8 "token-2"),
  bearer "secret-1"]

theorem identity_of_token_spoofed
    : ∃ key ∈ sampleServer.security.authKeys, bearerToken spoofed = some key.token
      ∧ some SecurityAuthRole.user = some key.role := by
  rcases (identity_of_token (by rfl : trim sampleServer.security.authMode = "static_keys")
    (by rfl : sampleServer.middleware spoofed 7 .api = .ok (_, some .user))).1 with
    ⟨key, hkey, htoken, hrole, -⟩
  exact ⟨key, hkey, htoken, hrole⟩

theorem find_of_nodup {keys : List SecurityAuthKey} (hnodup : (keys.map (·.token)).Nodup)
    (hkey : key ∈ keys) : keys.find? (·.token = key.token) = some key := by
  induction keys with
  | nil => cases hkey
  | cons other keys ih =>
    rw [List.map_cons, List.nodup_cons] at hnodup
    rcases List.mem_cons.mp hkey with rfl | hkey
    . simp
    . have hne : other.token ≠ key.token := by
        intro heq
        apply hnodup.1
        rw [heq]
        exact List.mem_map_of_mem hkey
      rw [List.find?_cons_of_neg (by simp [hne])]
      exact ih hnodup.2 hkey

/--
In a configuration that is accepted every key is known by its token. A request can carry the token if and only
if it has no white space at its ends and consists of visible characters of ASCII. A request that carries
it gets through as one of the key, and as no other one, unless a text of the key cannot be put into a
header.
-/
theorem token_identifies_key (hvalid : server.security.validate = .ok ())
    (hmode : trim server.security.authMode = "static_keys") (hkey : key ∈ server.security.authKeys)
    : ((∃ headers, bearerToken headers = some key.token)
        ↔ trim key.token = key.token ∧ isVisibleText key.token = true)
      ∧ ∃ agentId, key.agentId = some agentId
        ∧ ∀ headers drawn id port seen role, parseRequestIdFromHeaders headers drawn = .ok id →
          bearerToken headers = some key.token →
          (server.middleware headers drawn port = .ok (seen, role)
            ↔ key.Printable agentId ∧ (port = .admin → isAdminRole key.role = true)
              ∧ role = some key.role
              ∧ seen = insertAll (headers.remove headerTrustedTokenId) (key.entries agentId)) := by
  rcases valid_of_static hvalid hmode with ⟨hkeys, htokens, -⟩
  have hkeyValid := hkeys key hkey
  rcases hkeyValid.agent with ⟨agentId, hagent, -⟩
  refine ⟨⟨?_, ?_⟩, agentId, hagent, ?_⟩
  . rintro ⟨headers, htoken⟩
    exact bearerToken_spec htoken
  . rintro ⟨htrim, hvisible⟩
    have hempty := hkeyValid.token
    rw [htrim] at hempty
    exact ⟨[bearer key.token], bearerToken_bearer htrim hempty hvisible⟩
  . intro headers drawn id port seen role hid htoken
    have hfind := find_of_nodup htokens hkey
    rw [middleware_eq_ok hmode]
    constructor
    . rintro ⟨-, other, otherAgent, hauth⟩
      have heq : other = key := by
        have htokens := hauth.caller.token.symm.trans htoken
        have hother := hauth.caller.find
        rw [Option.some.inj htokens, hfind] at hother
        exact (Option.some.inj hother).symm
      subst heq
      have hsame : otherAgent = agentId := Option.some.inj (hauth.caller.agent.symm.trans hagent)
      subst hsame
      exact ⟨hauth.printable, hauth.caller.admin, hauth.role_eq, hauth.seen_eq⟩
    . rintro ⟨hprintable, hadmin, hrole, hseen⟩
      exact ⟨⟨id, hid⟩, key, agentId, ⟨hfind, htoken, hagent, hadmin⟩, hrole, hprintable, hseen⟩

theorem token_identifies_key_firstKey
    : ∃ key ∈ sampleServer.security.authKeys, ((∃ headers, bearerToken headers = some key.token)
        ↔ trim key.token = key.token ∧ isVisibleText key.token = true)
      ∧ ∃ agentId, key.agentId = some agentId := by
  rcases token_identifies_key (by rfl : sampleServer.security.validate = .ok ()) (by rfl)
    List.mem_cons_self with ⟨hcarried, agentId, hagent, -⟩
  exact ⟨_, List.mem_cons_self, hcarried, agentId, hagent⟩

/-! ## Super administrators -/

/-- What the graph predicates need of the configuration. -/
def Security.config (security : Security) : SecurityConfig :=
  ⟨security.authMode, security.authKeys.map (·.toSecurityAuthKey)⟩

theorem key_of_tokenId {keys : List SecurityAuthKey} (hnodup : (keys.map (·.tokenId)).Nodup)
    (hkey : key ∈ keys) (hother : other ∈ keys) (h : other.tokenId = key.tokenId) : other = key := by
  exact List.inj_on_of_nodup_map hnodup hother hkey h

/--
A request passes for one of a super administrator if the identifier of its token, once it is trimmed, is that
of such a key. Where identifiers have no white space at their ends that is the key of the request
itself.
-/
theorem superAdmin_of_token (hvalid : server.security.validate = .ok ())
    (hmode : trim server.security.authMode = "static_keys")
    (h : server.middleware headers drawn port = .ok (seen, role))
    : ∃ key ∈ server.security.authKeys, bearerToken headers = some key.token
        ∧ (isSuperAdminTokenId server.security.config
            (effectiveTokenId server.security.authMode seen) = true
          ↔ isVisibleText key.tokenId = true
            ∧ ∃ other ∈ server.security.authKeys, other.tokenId = trim key.tokenId
              ∧ other.role = .superAdmin)
        ∧ (trim key.tokenId = key.tokenId →
          (isSuperAdminTokenId server.security.config
              (effectiveTokenId server.security.authMode seen) = true
            ↔ isVisibleText key.tokenId = true ∧ key.role = .superAdmin)) := by
  rcases valid_of_static hvalid hmode with ⟨hkeys, -, htokenIds⟩
  rcases ((middleware_eq_ok hmode).mp h).2 with ⟨key, agentId, hauth⟩
  have hmem := hauth.caller.mem
  have hiff : isSuperAdminTokenId server.security.config
        (effectiveTokenId server.security.authMode seen) = true
      ↔ isVisibleText key.tokenId = true
        ∧ ∃ other ∈ server.security.authKeys, other.tokenId = trim key.tokenId
          ∧ other.role = .superAdmin := by
    have hempty := (hkeys key hmem).tokenId
    unfold isSuperAdminTokenId effectiveTokenId Security.config
    rw [if_pos hmode, hauth.trustedTokenId_eq, hempty]
    cases hvisible : isVisibleText key.tokenId with
    | false => simp [hmode]
    | true =>
      have hne : trim key.tokenId ≠ "" := by
        intro heq
        rw [heq] at hempty
        cases hempty
      simp [hmode, trim_trim, hne, Option.filter, List.any_map]
  refine ⟨key, hmem, hauth.caller.token, hiff, ?_⟩
  intro htrim
  rw [hiff, htrim]
  constructor
  . rintro ⟨hvisible, other, hother, heq, hrole⟩
    rw [key_of_tokenId htokenIds hmem hother heq] at hrole
    exact ⟨hvisible, hrole⟩
  . rintro ⟨hvisible, hrole⟩
    exact ⟨hvisible, key, hmem, rfl, hrole⟩

theorem superAdmin_of_token_secondKey
    : ∃ key ∈ sampleServer.security.authKeys, bearerToken [bearer "secret-2"] = some key.token
      ∧ ∃ seen, (isSuperAdminTokenId sampleServer.security.config
          (effectiveTokenId sampleServer.security.authMode seen) = true
        ↔ isVisibleText key.tokenId = true
          ∧ ∃ other ∈ sampleServer.security.authKeys, other.tokenId = trim key.tokenId
            ∧ other.role = .superAdmin) := by
  rcases superAdmin_of_token (by rfl : sampleServer.security.validate = .ok ()) (by rfl)
    (by rfl : sampleServer.middleware [bearer "secret-2"] 7 .admin = .ok (_, some .superAdmin)) with
    ⟨key, hkey, htoken, hiff, -⟩
  exact ⟨key, hkey, htoken, _, hiff⟩

end Elf.Api
