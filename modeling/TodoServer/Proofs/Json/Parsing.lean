/-
Documents: the values that are written in texts.

The tokens of a value are read as the value, whatever is begun around it. And nothing else is
read: of what the parser has read up to any place, its stack and what it expects say all the
tokens, so a value that it ends with has been written in full. So a text is read as a value if
and only if the tokens of the value are written in it, with white space among them.

* `Json.separated_tokens` — in the tokens of a value no two words are next to each other;
* `Json.Value.parses` — the tokens of a value are read as the value;
* `Json.Parser.HasRead` — the tokens that a parser has read, by where it stands;
* `Json.ofTokens?_eq_some_iff`, `Json.parse?_eq_some_iff` — what is read of tokens, and of a
  text.
-/
import TodoServer.Proofs.Json.Lexing
import TodoServer.Json.Document

namespace TodoServer.Json

/-! ### Tokens kept apart -/

theorem separated_nil : Separated [] := List.isChain_nil

theorem separated_singleton (t : Token) : Separated [t] := List.isChain_singleton t

/-- Punctuation keeps tokens apart. -/
theorem Separated.join {ts ts' : List Token} {p : Token} (h : Separated ts)
    (hp : p.IsPunctuation) (h' : Separated ts') : Separated (ts ++ p :: ts') :=
  List.isChain_append.2 ⟨h, List.isChain_cons.2 ⟨fun _ _ => Or.inl hp, h'⟩, fun _ _ _ hnext =>
    Or.inr (Option.some_inj.1 hnext ▸ hp)⟩

theorem Separated.ended {ts : List Token} {p : Token} (h : Separated ts)
    (hp : p.IsPunctuation) : Separated (ts ++ [p]) := h.join hp separated_nil

theorem Separated.begun {ts : List Token} {p : Token} (hp : p.IsPunctuation)
    (h : Separated ts) : Separated (p :: ts) := separated_nil.join hp h

mutual

/-- In the tokens of a value no two words are next to each other. -/
theorem separated_tokens : ∀ value : Value, Separated value.tokens
  | .null => separated_singleton _
  | .bool _ => separated_singleton _
  | .number _ => separated_singleton _
  | .text _ => separated_singleton _
  | .array items => .begun ⟨'[', by decide⟩
    ((separated_itemTokens items).ended ⟨']', by decide⟩)
  | .object members =>
    .begun ⟨'\x7b', by decide⟩ ((separated_memberTokens members).ended ⟨'\x7d', by decide⟩)

theorem separated_itemTokens : ∀ items : List Value, Separated (itemTokens items)
  | [] => separated_nil
  | [item] => separated_tokens item
  | item :: next :: rest => by
    rw [itemTokens]
    · exact (separated_tokens item).join ⟨',', by decide⟩ (separated_itemTokens (next :: rest))
    · exact List.cons_ne_nil _ _

theorem separated_memberTokens : ∀ members : List Member, Separated (memberTokens members)
  | [] => separated_nil
  | [(name, value)] => by
    rw [memberTokens]
    exact (separated_singleton (.text name)).join ⟨':', by decide⟩ (separated_tokens value)
  | (name, value) :: next :: rest => by
    rw [memberTokens]
    · have hfirst : Separated ([.text name] ++ .colon :: value.tokens) :=
        (separated_singleton _).join ⟨':', by decide⟩ (separated_tokens value)
      exact hfirst.join ⟨',', by decide⟩ (separated_memberTokens (next :: rest))
    · exact List.cons_ne_nil _ _

end

/-! ### What is written is read -/

/-- The first token of a value does not end an array. -/
theorem Value.tokens_eq_cons (value : Value) :
    ∃ t ts, value.tokens = t :: ts ∧ t ≠ .closeArray := by
  cases value <;> exact ⟨_, _, rfl, nofun⟩

/-- Where a first item may come, a token that does not end the array is read as where a value
must come. -/
theorem parseStep_firstItem (stack : List Frame) {t : Token} (ht : t ≠ .closeArray) :
    parseStep ⟨stack, .firstItem⟩ t = parseStep ⟨stack, .value⟩ t := by
  cases t <;> first | rfl | exact absurd rfl ht

mutual

/-- The tokens of a value, where a value is expected, are read as the value. -/
theorem Value.parses : ∀ (value : Value) (stack : List Frame),
    value.tokens.foldlM parseStep ⟨stack, .value⟩ = some (complete stack value)
  | .null, _ => rfl
  | .bool _, _ => rfl
  | .number _, _ => rfl
  | .text _, _ => rfl
  | .array [], _ => rfl
  | .array (item :: rest), stack => by
    have hopen : parseStep ⟨stack, .value⟩ .openArray =
        some ⟨.array [] :: stack, .firstItem⟩ := rfl
    have hitems := parses_itemTokens (item :: rest) (List.cons_ne_nil _ _) [] stack
    obtain ⟨t, ts, hts, ht⟩ := item.tokens_eq_cons
    -- the first token of the items is read as if a value had to come
    have hfirst : (itemTokens (item :: rest)).foldlM parseStep
        ⟨.array [] :: stack, .firstItem⟩ =
        (itemTokens (item :: rest)).foldlM parseStep ⟨.array [] :: stack, .value⟩ := by
      cases rest with
      | nil =>
        rw [itemTokens, hts, List.foldlM_cons, List.foldlM_cons, parseStep_firstItem _ ht]
      | cons next rest =>
        rw [itemTokens, hts, List.cons_append, List.foldlM_cons, List.foldlM_cons,
          parseStep_firstItem _ ht]
        exact List.cons_ne_nil _ _
    rw [Value.tokens, List.cons_append, foldlM_cons_of_some hopen,
      foldlM_append_of_some (hfirst.trans hitems)]
    simp [parseStep]
  | .object [], _ => rfl
  | .object ((name, value) :: rest), stack => by
    have hopen : parseStep ⟨stack, .value⟩ .openObject = some ⟨stack, .firstName⟩ := rfl
    obtain ⟨last, hmembers⟩ :=
      parses_memberTokens ((name, value) :: rest) (List.cons_ne_nil _ _) [] stack
    -- the first name is read as if a name had to come
    have hfirst : (memberTokens ((name, value) :: rest)).foldlM parseStep ⟨stack, .firstName⟩ =
        (memberTokens ((name, value) :: rest)).foldlM parseStep ⟨stack, .name []⟩ := by
      cases rest with
      | nil => rfl
      | cons next rest =>
        rw [memberTokens]
        · rfl
        · exact List.cons_ne_nil _ _
    rw [Value.tokens, List.cons_append, foldlM_cons_of_some hopen,
      foldlM_append_of_some (hfirst.trans hmembers)]
    simp [parseStep]

theorem parses_itemTokens : ∀ (items : List Value) (_ : items ≠ []) (read : List Value)
    (stack : List Frame), (itemTokens items).foldlM parseStep ⟨.array read :: stack, .value⟩ =
      some ⟨.array (items.reverse ++ read) :: stack, .separator⟩
  | [], h, _, _ => absurd rfl h
  | [item], _, read, stack => by
    rw [itemTokens, item.parses]
    rfl
  | item :: next :: rest, _, read, stack => by
    have hcomma : parseStep ⟨.array (item :: read) :: stack, .separator⟩ .comma =
        some ⟨.array (item :: read) :: stack, .value⟩ := rfl
    have hitem := item.parses (.array read :: stack)
    rw [itemTokens, foldlM_append_of_some hitem, complete, foldlM_cons_of_some hcomma,
      parses_itemTokens (next :: rest) (List.cons_ne_nil _ _)]
    · simp
    · exact List.cons_ne_nil _ _

theorem parses_memberTokens : ∀ (members : List Member) (_ : members ≠ []) (read : List Member)
    (stack : List Frame), ∃ last,
      (memberTokens members).foldlM parseStep ⟨stack, .name read⟩ =
        some ⟨.object (members.reverse ++ read) last :: stack, .separator⟩
  | [], h, _, _ => absurd rfl h
  | [(name, value)], _, read, stack => by
    have hname : parseStep ⟨stack, .name read⟩ (.text name) = some ⟨stack, .colon read name⟩ :=
      rfl
    have hcolon : parseStep ⟨stack, .colon read name⟩ .colon =
        some ⟨.object read name :: stack, .value⟩ := rfl
    refine ⟨name, ?_⟩
    rw [memberTokens, foldlM_cons_of_some hname, foldlM_cons_of_some hcolon, value.parses]
    rfl
  | (name, value) :: next :: rest, _, read, stack => by
    have hname : parseStep ⟨stack, .name read⟩ (.text name) = some ⟨stack, .colon read name⟩ :=
      rfl
    have hcolon : parseStep ⟨stack, .colon read name⟩ .colon =
        some ⟨.object read name :: stack, .value⟩ := rfl
    have hcomma : parseStep ⟨.object ((name, value) :: read) name :: stack, .separator⟩
        .comma = some ⟨stack, .name ((name, value) :: read)⟩ := rfl
    have hvalue := value.parses (.object read name :: stack)
    obtain ⟨last, hrest⟩ := parses_memberTokens (next :: rest) (List.cons_ne_nil _ _)
      ((name, value) :: read) stack
    refine ⟨last, ?_⟩
    rw [memberTokens, List.cons_append, List.cons_append, foldlM_cons_of_some hname,
      foldlM_cons_of_some hcolon, foldlM_append_of_some hvalue, complete,
      foldlM_cons_of_some hcomma, hrest]
    · simp
    · exact List.cons_ne_nil _ _

end

/-! ### What is read is written -/

/-- The tokens of items with a comma after each. -/
def itemsBegun (items : List Value) : List Token :=
  items.flatMap fun item => item.tokens ++ [.comma]

/-- The tokens of members with a comma after each. -/
def membersBegun (members : List Member) : List Token :=
  members.flatMap fun m => .text m.1 :: .colon :: m.2.tokens ++ [.comma]

theorem itemTokens_concat (items : List Value) (last : Value) :
    itemTokens (items ++ [last]) = itemsBegun items ++ last.tokens := by
  induction items with
  | nil => rfl
  | cons item rest ih =>
    rw [List.cons_append, itemTokens, ih]
    · simp [itemsBegun]
    · simp

theorem memberTokens_concat (members : List Member) (name : Text) (value : Value) :
    memberTokens (members ++ [(name, value)]) =
      membersBegun members ++ .text name :: .colon :: value.tokens := by
  induction members with
  | nil => rfl
  | cons m rest ih =>
    rw [List.cons_append, memberTokens, ih]
    · simp [membersBegun]
    · simp

/-- The tokens that have begun an array or object, up to where a value comes. -/
def Frame.begun : Frame → List Token
  | .array items => .openArray :: itemsBegun items.reverse
  | .object members name => .openObject ::
    (membersBegun members.reverse ++ [.text name, .colon])

/-- The tokens that have begun all arrays and objects of a stack. -/
def begun (stack : List Frame) : List Token := stack.reverse.flatMap Frame.begun

theorem begun_cons (frame : Frame) (stack : List Frame) :
    begun (frame :: stack) = begun stack ++ frame.begun := by
  rw [begun, begun, List.reverse_cons, List.flatMap_append, List.flatMap_singleton]

/-- The tokens that a parser has read: those of what is begun, and of what is there of the
innermost. -/
inductive Parser.HasRead : Parser → List Token → Prop
  | value (stack : List Frame) : HasRead ⟨stack, .value⟩ (begun stack)
  | firstItem (stack : List Frame) :
    HasRead ⟨.array [] :: stack, .firstItem⟩ (begun stack ++ [.openArray])
  | firstName (stack : List Frame) : HasRead ⟨stack, .firstName⟩ (begun stack ++ [.openObject])
  | name (stack : List Frame) (members : List Member) :
    HasRead ⟨stack, .name members⟩ (begun stack ++ .openObject :: membersBegun members.reverse)
  | colon (stack : List Frame) (members : List Member) (name : Text) :
    HasRead ⟨stack, .colon members name⟩
      (begun stack ++ .openObject :: (membersBegun members.reverse ++ [.text name]))
  | items (stack : List Frame) (last : Value) (items : List Value) :
    HasRead ⟨.array (last :: items) :: stack, .separator⟩
      (begun stack ++ .openArray :: itemTokens (items.reverse ++ [last]))
  | members (stack : List Frame) (key name : Text) (last : Value) (members : List Member) :
    HasRead ⟨.object ((key, last) :: members) name :: stack, .separator⟩
      (begun stack ++ .openObject :: memberTokens (members.reverse ++ [(key, last)]))
  | nothing (value : Value) : HasRead ⟨[], .nothing value⟩ value.tokens

namespace Parser

theorem hasRead_complete (stack : List Frame) (value : Value) :
    (complete stack value).HasRead (begun stack ++ value.tokens) := by
  rcases stack with _ | ⟨items | ⟨members, name⟩, rest⟩
  · exact .nothing value
  · have hread := HasRead.items rest value items
    rw [itemTokens_concat] at hread
    rw [begun_cons, Frame.begun, List.append_assoc, List.cons_append]
    exact hread
  · have hread := HasRead.members rest name name value members
    rw [memberTokens_concat] at hread
    rw [begun_cons, Frame.begun, List.append_assoc, List.cons_append, List.append_assoc]
    exact hread

theorem hasRead_beginValue {stack : List Frame} {t : Token} {s : Parser}
    (h : beginValue stack t = some s) : s.HasRead (begun stack ++ [t]) := by
  unfold beginValue at h
  split at h <;> cases h
  · exact hasRead_complete stack .null
  · exact hasRead_complete stack (.bool _)
  · exact hasRead_complete stack (.number _)
  · exact hasRead_complete stack (.text _)
  · exact .firstItem stack
  · exact .firstName stack

/-- A parser goes on with one token. -/
theorem HasRead.step {s s' : Parser} {ts : List Token} (h : s.HasRead ts) {t : Token}
    (hstep : parseStep s t = some s') : s'.HasRead (ts ++ [t]) := by
  cases h with
  | value stack => exact hasRead_beginValue hstep
  | firstItem stack =>
    -- a bracket ends an array without items, and anything else begins its first item
    by_cases ht : t = .closeArray
    · subst ht
      cases hstep
      rw [List.append_assoc]
      exact hasRead_complete stack (.array [])
    · rw [parseStep_firstItem _ ht] at hstep
      have hbegun : begun (.array [] :: stack) = begun stack ++ [.openArray] := begun_cons _ _
      rw [← hbegun]
      exact hasRead_beginValue hstep
  | firstName stack =>
    rw [List.append_assoc]
    cases t with
    | closeObject =>
      cases hstep
      exact hasRead_complete stack (.object [])
    | text name =>
      cases hstep
      exact .colon stack [] name
    | _ => cases hstep
  | name stack members =>
    cases t with
    | text name =>
      cases hstep
      rw [List.append_assoc]
      exact .colon stack members name
    | _ => cases hstep
  | colon stack members name =>
    cases t with
    | colon =>
      cases hstep
      have hread := HasRead.value (.object members name :: stack)
      rw [begun_cons, Frame.begun] at hread
      simpa using hread
    | _ => cases hstep
  | items stack last items =>
    cases t with
    | comma =>
      cases hstep
      have hread := HasRead.value (.array (last :: items) :: stack)
      rw [begun_cons, Frame.begun, itemsBegun] at hread
      simpa [itemTokens_concat, itemsBegun] using hread
    | closeArray =>
      cases hstep
      have hread := hasRead_complete stack (.array (last :: items).reverse)
      rw [Value.tokens] at hread
      simpa using hread
    | _ => cases hstep
  | members stack key name last members =>
    cases t with
    | comma =>
      cases hstep
      have hread := HasRead.name stack ((key, last) :: members)
      rw [membersBegun] at hread
      simpa [memberTokens_concat, membersBegun] using hread
    | closeObject =>
      cases hstep
      have hread := hasRead_complete stack (.object ((key, last) :: members).reverse)
      rw [Value.tokens] at hread
      simpa using hread
    | _ => cases hstep
  | nothing value => cases t <;> cases hstep

end Parser

/-- The value of tokens is the one whose tokens they are. -/
theorem ofTokens?_eq_some_iff {ts : List Token} {value : Value} :
    ofTokens? ts = some value ↔ ts = value.tokens := by
  constructor
  · intro h
    obtain ⟨s, hs, hfinish⟩ := Option.bind_eq_some_iff.1 h
    have hstart : Parser.HasRead ⟨[], .value⟩ [] := .value []
    have hread : s.HasRead ts := foldlM_keeps (fun h => h.step) hstart hs
    cases hread <;> cases hfinish
    rfl
  · rintro rfl
    rw [ofTokens?, value.parses]
    rfl

/-- A text is read as a value exactly if the tokens of the value are written in it. -/
theorem parse?_eq_some_iff {cs : List Char} {value : Value} :
    parse? cs = some value ↔ Spelled value.tokens cs := by
  rw [← tokens?_eq_some_iff (separated_tokens value), parse?, Option.bind_eq_some_iff]
  simp only [ofTokens?_eq_some_iff, exists_eq_right]

end TodoServer.Json
