/-
What a key-set document says.

A document is read entry by entry, and each usable entry takes the place of one before it that
names the same key id. So the document is told by its usable entries alone: a key id has the
key of the last of them that names it, and an entry that is not usable might as well not be
there, wherever it stands.

* `Json.Value.Gives` — the usable entries, each with its key;
* `Snapshot.LastGives` — the key of the last usable entry that names a key id;
* `Snapshot.SameUsable` — documents that differ in entries that are not usable;
* `Snapshot.get?_foldl_insert`, `Snapshot.nodup_ofEntries` — of the keys with one id the last
  one stays, and it stays alone;
* `snapshot_of_entries` — what every document says.
-/
import Mathlib.Data.Finset.Card
import TodoServer.Proofs.KeySet.Rotation
import TodoServer.Proofs.Token.Decision

namespace TodoServer

/-! ### Entries -/

/-- A usable entry and its key. The entry is an object of key type `RSA` with a non-empty key
id, modulus and exponent. -/
inductive Json.Value.Gives : Json.Value → SigningKey → Prop
  | rsa {members : List Json.Member} {keyId modulus exponent : Text}
    (keyType : Json.lookup members "kty" = some (.text "RSA"))
    (keyId_eq : Json.lookup members "kid" = some (.text keyId)) (keyId_ne : keyId ≠ "")
    (modulus_eq : Json.lookup members "n" = some (.text modulus)) (modulus_ne : modulus ≠ "")
    (exponent_eq : Json.lookup members "e" = some (.text exponent))
    (exponent_ne : exponent ≠ "") :
    Gives (.object members) ⟨keyId, Base64.decode modulus, Base64.decode exponent⟩

namespace SigningKey

theorem textUnder?_eq_some_iff {members : List Json.Member} {name t : Text} :
    textUnder? members name = some t ↔ Json.lookup members name = some (.text t) ∧ t ≠ "" := by
  rw [textUnder?, Option.filter_eq_some_iff, Token.bind_text?_eq_some_iff, decide_eq_true_iff]

/-- The key of an entry is the one that the entry gives. -/
theorem ofJson?_eq_some_iff {entry : Json.Value} {key : SigningKey} :
    ofJson? entry = some key ↔ entry.Gives key := by
  constructor
  · intro h
    simp only [ofJson?, Option.bind_eq_bind, Option.bind_eq_some_iff, textUnder?_eq_some_iff,
      Json.Value.members?_eq_some_iff] at h
    obtain ⟨members, rfl, keyType, ⟨htype, -⟩, keyId, ⟨hkeyId, hkeyIdNe⟩, modulus,
      ⟨hmodulus, hmodulusNe⟩, exponent, ⟨hexponent, hexponentNe⟩, hkey⟩ := h
    split_ifs at hkey with hrsa
    obtain rfl := Option.some_inj.1 hkey
    rw [hrsa] at htype
    exact .rsa htype hkeyId hkeyIdNe hmodulus hmodulusNe hexponent hexponentNe
  · rintro ⟨htype, hkeyId, hkeyIdNe, hmodulus, hmodulusNe, hexponent, hexponentNe⟩
    have hrsaNe : ("RSA" : Text) ≠ "" := by decide
    simp only [ofJson?, Json.Value.members?, Option.bind_eq_bind, Option.bind_some,
      textUnder?_eq_some_iff.2 ⟨htype, hrsaNe⟩, textUnder?_eq_some_iff.2 ⟨hkeyId, hkeyIdNe⟩,
      textUnder?_eq_some_iff.2 ⟨hmodulus, hmodulusNe⟩,
      textUnder?_eq_some_iff.2 ⟨hexponent, hexponentNe⟩, if_true]

theorem ofJson?_eq_none_iff {entry : Json.Value} :
    ofJson? entry = none ↔ ∀ key, ¬ entry.Gives key := by
  simp only [Option.eq_none_iff_forall_ne_some, ne_eq, ofJson?_eq_some_iff]

end SigningKey

namespace Snapshot

variable {entries others first second : List Json.Value} {keyId : Text} {key : SigningKey}

/-- The last usable entry that names a key id gives this key. -/
inductive LastGives (keyId : Text) : List Json.Value → SigningKey → Prop
  | last {before after : List Json.Value} {entry : Json.Value} {key : SigningKey}
    (hentry : entry.Gives key) (hkeyId : key.keyId = keyId)
    (hafter : ∀ later ∈ after, ∀ other, later.Gives other → other.keyId ≠ keyId) :
    LastGives keyId (before ++ entry :: after) key

/-- One document comes from another by putting in, leaving out and replacing entries that are
not usable. -/
inductive SameUsable : List Json.Value → List Json.Value → Prop
  | nil : SameUsable [] []
  | keep {entry : Json.Value} {entries others : List Json.Value}
    (h : SameUsable entries others) : SameUsable (entry :: entries) (entry :: others)
  | leaveOut {entry : Json.Value} {entries others : List Json.Value}
    (hentry : ∀ key, ¬ entry.Gives key)
    (h : SameUsable entries others) : SameUsable (entry :: entries) others
  | putIn {entry : Json.Value} {entries others : List Json.Value}
    (hentry : ∀ key, ¬ entry.Gives key)
    (h : SameUsable entries others) : SameUsable entries (entry :: others)

/-- Documents that differ in entries that are not usable give the same keys in the same
order. -/
theorem SameUsable.filterMap_eq (h : SameUsable entries others) :
    entries.filterMap SigningKey.ofJson? = others.filterMap SigningKey.ofJson? := by
  induction h with
  | nil => rfl
  | keep h ih => rw [List.filterMap_cons, List.filterMap_cons, ih]
  | leaveOut hentry h ih =>
    rw [List.filterMap_cons_none (SigningKey.ofJson?_eq_none_iff.2 hentry), ih]
  | putIn hentry h ih =>
    rw [List.filterMap_cons_none (SigningKey.ofJson?_eq_none_iff.2 hentry), ih]

theorem SameUsable.ofEntries_eq (h : SameUsable entries others) :
    ofEntries entries = ofEntries others := by
  rw [ofEntries, ofEntries, h.filterMap_eq]

/-! ### The last key of an id -/

theorem get?_insert (keys : Snapshot) (key : SigningKey) (keyId : Text) :
    (keys.insert key).get? keyId =
      if key.keyId = keyId then some key else keys.get? keyId := by
  rw [get?, insert, List.find?_append]
  split_ifs with hsame
  · -- none of the keys that are kept has the id
    have hkept : (keys.filter fun other => other.keyId ≠ key.keyId).find?
        (fun other => other.keyId = keyId) = none := by
      rw [List.find?_filter, List.find?_eq_none]
      simp [hsame]
    rw [hkept]
    simp [hsame]
  · have hkept : (keys.filter fun other => other.keyId ≠ key.keyId).find?
        (fun other => other.keyId = keyId) = keys.get? keyId := by
      rw [List.find?_filter, get?]
      congr 1
      funext other
      by_cases hother : other.keyId = keyId
      · simp [hother, Ne.symm hsame]
      · simp [hother]
    rw [hkept]
    simp [hsame]

/-- A key id has the last of the keys that are put in under it, or what it had before. -/
theorem get?_foldl_insert (found : List SigningKey) (keys : Snapshot) (keyId : Text) :
    (found.foldl insert keys).get? keyId =
      (found.reverse.find? fun key => key.keyId = keyId).or (keys.get? keyId) := by
  induction found generalizing keys with
  | nil => rfl
  | cons key rest ih =>
    rw [List.foldl_cons, ih, get?_insert, List.reverse_cons, List.find?_append,
      Option.or_assoc]
    congr 1
    by_cases hkey : key.keyId = keyId <;> simp [hkey]

theorem get?_ofEntries (entries : List Json.Value) (keyId : Text) :
    (ofEntries entries).get? keyId =
      (entries.filterMap SigningKey.ofJson?).reverse.find? fun key => key.keyId = keyId := by
  rw [ofEntries, get?_foldl_insert]
  exact Option.or_none

theorem get?_ofEntries_append :
    (ofEntries (first ++ second)).get? keyId =
      ((ofEntries second).get? keyId).or ((ofEntries first).get? keyId) := by
  simp only [get?_ofEntries, List.filterMap_append, List.reverse_append, List.find?_append]

theorem get?_ofEntries_eq_some_iff :
    (ofEntries entries).get? keyId = some key ↔ LastGives keyId entries key := by
  rw [get?_ofEntries]
  constructor
  · intro h
    obtain ⟨hkeyId, after, before, hfound, hafter⟩ := List.find?_eq_some_iff_append.1 h
    rw [List.reverse_eq_iff, List.reverse_append, List.reverse_cons, List.append_assoc,
      List.singleton_append] at hfound
    -- the key comes from an entry, and the keys after it from the entries after that
    obtain ⟨front, back, rfl, -, hback⟩ := List.filterMap_eq_append_iff.1 hfound
    obtain ⟨skipped, entry, later, rfl, -, hentry, hlater⟩ :=
      List.filterMap_eq_cons_iff.1 hback
    rw [← List.append_assoc]
    refine .last (SigningKey.ofJson?_eq_some_iff.1 hentry) (of_decide_eq_true hkeyId) ?_
    intro other hother otherKey hgives
    have hmem : otherKey ∈ after.reverse :=
      hlater ▸ List.mem_filterMap.2 ⟨other, hother, SigningKey.ofJson?_eq_some_iff.2 hgives⟩
    simpa using hafter otherKey (List.mem_reverse.1 hmem)
  · rintro @⟨before, after, entry, key, hentry, hkeyId, hafter⟩
    rw [List.filterMap_append,
      List.filterMap_cons_some (SigningKey.ofJson?_eq_some_iff.2 hentry)]
    refine List.find?_eq_some_iff_append.2 ⟨decide_eq_true hkeyId,
      (after.filterMap SigningKey.ofJson?).reverse,
      (before.filterMap SigningKey.ofJson?).reverse, by simp, fun otherKey hother => ?_⟩
    obtain ⟨other, hmem, hgives⟩ := List.mem_filterMap.1 (List.mem_reverse.1 hother)
    simpa using hafter other hmem otherKey (SigningKey.ofJson?_eq_some_iff.1 hgives)

/-! ### How many keys there are -/

/-- The ids of the keys are told apart when one more is put in. -/
theorem nodup_insert {keys : Snapshot} (h : (keys.map SigningKey.keyId).Nodup)
    (key : SigningKey) : ((keys.insert key).map SigningKey.keyId).Nodup := by
  rw [insert, List.map_append, List.map_singleton, List.nodup_append]
  refine ⟨h.sublist (List.filter_sublist.map _), List.nodup_singleton _, ?_⟩
  rintro otherId hother _ hlast rfl
  obtain rfl := List.mem_singleton.1 hlast
  obtain ⟨other, hmem, hsame⟩ := List.mem_map.1 hother
  exact of_decide_eq_true (List.mem_filter.1 hmem).2 hsame

theorem nodup_foldl_insert (found : List SigningKey) {keys : Snapshot}
    (h : (keys.map SigningKey.keyId).Nodup) :
    ((found.foldl insert keys).map SigningKey.keyId).Nodup := by
  induction found generalizing keys with
  | nil => exact h
  | cons key rest ih => exact ih (nodup_insert h key)

theorem nodup_ofEntries (entries : List Json.Value) :
    ((ofEntries entries).map SigningKey.keyId).Nodup :=
  nodup_foldl_insert _ List.nodup_nil

theorem mem_map_keyId_iff {keys : Snapshot} :
    keyId ∈ keys.map SigningKey.keyId ↔ ∃ key, keys.get? keyId = some key := by
  rw [List.mem_map, ← Option.isSome_iff_exists, get?, List.find?_isSome]
  simp

/-- A document gives a key under an id exactly if a usable entry names the id. -/
theorem exists_get?_ofEntries_iff :
    (∃ key, (ofEntries entries).get? keyId = some key) ↔
      ∃ entry ∈ entries, ∃ key, entry.Gives key ∧ key.keyId = keyId := by
  rw [← Option.isSome_iff_exists, get?_ofEntries, List.find?_isSome]
  simp only [List.mem_reverse, List.mem_filterMap, SigningKey.ofJson?_eq_some_iff,
    decide_eq_true_iff]
  constructor
  · rintro ⟨key, ⟨entry, hentry, hgives⟩, hkeyId⟩
    exact ⟨entry, hentry, key, hgives, hkeyId⟩
  · rintro ⟨entry, hentry, key, hgives, hkeyId⟩
    exact ⟨key, ⟨entry, hentry, hgives⟩, hkeyId⟩

/-- There are as many keys as there are ids that usable entries name. -/
theorem exists_card_eq_size (entries : List Json.Value) :
    ∃ ids : Finset Text,
      (∀ keyId, keyId ∈ ids ↔ ∃ entry ∈ entries, ∃ key, entry.Gives key ∧ key.keyId = keyId) ∧
        (ofEntries entries).size = ids.card := by
  refine ⟨((ofEntries entries).map SigningKey.keyId).toFinset, fun keyId => ?_, ?_⟩
  · rw [List.mem_toFinset, mem_map_keyId_iff, exists_get?_ofEntries_iff]
  · rw [List.toFinset_card_of_nodup (nodup_ofEntries entries), List.length_map, size]

/-- Each of the keys is the one that is found under its own id. -/
theorem get?_of_mem_ofEntries (h : key ∈ ofEntries entries) :
    (ofEntries entries).get? key.keyId = some key := by
  obtain ⟨found, hfound⟩ := mem_map_keyId_iff.1 (List.mem_map_of_mem (f := SigningKey.keyId) h)
  have hsame : found = key :=
    List.inj_on_of_nodup_map (nodup_ofEntries entries) (List.mem_of_find?_eq_some hfound) h
      (keyId_of_get? hfound)
  rw [hfound, hsame]

/-! ### Every document -/

/-- What a document says, whatever entries it has. A fetch that brings it succeeds, and the
cache knows the document from then on. Each key id has the key of the last usable entry that
names it, and no key if there is none. Entries that are not usable may be put in, left out and
replaced by others anywhere without a difference. Of two documents joined the second overrides
the first. There are as many keys as ids that usable entries name, and each key is found under
its own id. -/
theorem snapshot_of_entries (entries : List Json.Value) :
    (∀ (outcome : FetchOutcome) (now : ℚ) (c : Cache), outcome.Brings entries →
      c.arrive now outcome = (.ok (), ⟨.ofEntries entries, some now, c.inFlight⟩)) ∧
      (∀ keyId key, (ofEntries entries).get? keyId = some key ↔ LastGives keyId entries key) ∧
      (∀ others, SameUsable entries others → ofEntries others = ofEntries entries) ∧
      (∀ others keyId, (ofEntries (entries ++ others)).get? keyId =
        ((ofEntries others).get? keyId).or ((ofEntries entries).get? keyId)) ∧
      (∃ ids : Finset Text,
        (∀ keyId, keyId ∈ ids ↔
          ∃ entry ∈ entries, ∃ key, entry.Gives key ∧ key.keyId = keyId) ∧
        (ofEntries entries).size = ids.card) ∧
      (∀ keyId key, (ofEntries entries).get? keyId = some key → key.keyId = keyId) ∧
      ∀ key ∈ ofEntries entries, (ofEntries entries).get? key.keyId = some key := by
  refine ⟨?_, fun _ _ => get?_ofEntries_eq_some_iff, fun _ hsame => hsame.ofEntries_eq.symm,
    fun _ _ => get?_ofEntries_append, exists_card_eq_size entries, fun _ _ => keyId_of_get?,
    fun _ => get?_of_mem_ofEntries⟩
  intro outcome now c hbrings
  rw [Cache.arrive, FetchOutcome.entries_eq_ok_iff.2 hbrings]

/-- A usable entry with a key id and a modulus. -/
def rsaEntry (keyId modulus : Text) : Json.Value :=
  .object [("kty", .text "RSA"), ("kid", .text keyId), ("n", .text modulus),
    ("e", .text "AQAB")]

/-- The key of that entry. -/
def rsaKey (keyId modulus : Text) : SigningKey :=
  ⟨keyId, Base64.decode modulus, Base64.decode "AQAB"⟩

/-- The entries of a document that replaces one key and holds two entries that are not
usable. -/
def mixedEntries : List Json.Value :=
  [rsaEntry "a" "AAAA", .null, rsaEntry "b" "AQAB",
    .object [("kty", .text "EC"), ("kid", .text "b")], rsaEntry "a" "AQAB"]

/-- A fetch that brings that document. -/
def mixedFetch : FetchOutcome :=
  .answered 200
    (Utf8.encode (.ofString (Json.Value.render (.object [("keys", .array mixedEntries)]))))

theorem snapshot_of_entries_mixed :
    mixedFetch.Brings mixedEntries ∧
      (Cache.empty.arrive 5 mixedFetch).2 = ⟨ofEntries mixedEntries, some 5, false⟩ ∧
      SameUsable mixedEntries [rsaEntry "a" "AAAA", rsaEntry "b" "AQAB", rsaEntry "a" "AQAB"] ∧
      ofEntries [rsaEntry "a" "AAAA", rsaEntry "b" "AQAB", rsaEntry "a" "AQAB"] =
        ofEntries mixedEntries ∧
      LastGives "a" mixedEntries (rsaKey "a" "AQAB") ∧ (ofEntries mixedEntries).size = 2 := by
  have hbrings : mixedFetch.Brings mixedEntries :=
    FetchOutcome.entries_eq_ok_iff.1 (by decide +kernel)
  have hnull : ∀ key, ¬ Json.Value.null.Gives key :=
    SigningKey.ofJson?_eq_none_iff.1 (by decide +kernel)
  have hother :
      ∀ key, ¬ (Json.Value.object [("kty", .text "EC"), ("kid", .text "b")]).Gives key :=
    SigningKey.ofJson?_eq_none_iff.1 (by decide +kernel)
  have hsame : SameUsable mixedEntries
      [rsaEntry "a" "AAAA", rsaEntry "b" "AQAB", rsaEntry "a" "AQAB"] :=
    .keep (.leaveOut hnull (.keep (.leaveOut hother (.keep .nil))))
  obtain ⟨harrive, hget, hleft, -⟩ := snapshot_of_entries mixedEntries
  refine ⟨hbrings, by rw [harrive mixedFetch 5 Cache.empty hbrings]; rfl, hsame,
    hleft _ hsame, (hget "a" _).1 (by decide +kernel), by decide +kernel⟩

end Snapshot

end TodoServer
