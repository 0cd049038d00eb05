import Thesaurus.Proofs.Json.Tokens

/-!
# Reading what is written

The machine that puts tokens together has a value where the tokens of a value were due, on any stack
that leaves room for it. Main facts: `read_write` and `read_write_append` give every value back that
fits, in every layout.
-/

set_option autoImplicit false

namespace Thesaurus.Json

variable {limits : Limits}

/-- Where a value is due, its tokens supply it. -/
def Supplies (limits : Limits) (room : Nat) (j : Json) : Prop :=
  ∀ stack rest, stack.length + room ≤ limits.depth →
    (tokenList j ++ rest).foldlM (Assembly.step limits) ⟨stack, .value⟩ =
      Assembly.supply stack j >>= rest.foldlM (Assembly.step limits)

theorem exists_tokenList_cons (j : Json) :
    ∃ token tokens, tokenList j = token :: tokens ∧ token ≠ .closeArray := by
  cases j with
  | array items => cases items <;> exact ⟨_, _, rfl, nofun⟩
  | object members => cases members <;> exact ⟨_, _, rfl, nofun⟩
  | _ => exact ⟨_, _, rfl, nofun⟩

theorem foldlM_firstItem (j : Json) (stack : List Frame) (rest : List Token) :
    (tokenList j ++ rest).foldlM (Assembly.step limits) ⟨stack, .firstItem⟩ =
      (tokenList j ++ rest).foldlM (Assembly.step limits) ⟨stack, .value⟩ := by
  -- Only a bracket that closes is taken in another way, and no value begins with one.
  obtain ⟨token, tokens, htokens, hne⟩ := exists_tokenList_cons j
  have hfirst : Assembly.step limits ⟨stack, .firstItem⟩ token =
      Assembly.step limits ⟨stack, .value⟩ token := by
    cases token with
    | closeArray => exact absurd rfl hne
    | _ => rfl
  rw [htokens, List.cons_append, List.foldlM_cons, List.foldlM_cons, hfirst]

theorem nest_of_room {stack : List Frame} {room : Nat} (h : stack.length + (room + 1) ≤ limits.depth)
    (frame : Frame) (expecting : Expecting) :
    Assembly.nest limits stack frame expecting = .ok ⟨frame :: stack, expecting⟩ := by
  rw [Assembly.nest, if_pos (by omega)]

theorem foldlM_itemTokens {room : Nat} {items : List Json}
    (h : ∀ item ∈ items, Supplies limits room item) {stack : List Frame}
    (hroom : stack.length + (room + 1) ≤ limits.depth) (done : List Json) (rest : List Token) :
    (itemTokens items ++ rest).foldlM (Assembly.step limits) ⟨.array done :: stack, .next⟩ =
      rest.foldlM (Assembly.step limits) ⟨.array (items.reverse ++ done) :: stack, .next⟩ := by
  induction items generalizing done with
  | nil => rfl
  | cons item items ih =>
    obtain ⟨hitem, hitems⟩ := List.forall_mem_cons.mp h
    have hinner : (Frame.array done :: stack).length + room ≤ limits.depth := by
      rw [List.length_cons]
      omega
    have hsupply := hitem (.array done :: stack) (itemTokens items ++ rest) hinner
    rw [itemTokens, List.cons_append, List.append_assoc, List.foldlM_cons]
    refine hsupply.trans ?_
    change (itemTokens items ++ rest).foldlM (Assembly.step limits)
      ⟨.array (item :: done) :: stack, .next⟩ = _
    rw [ih hitems, List.reverse_cons, List.append_assoc, List.singleton_append]

theorem foldlM_memberTokens {room : Nat} {members : List (Text × Json)}
    (h : ∀ member ∈ members, Supplies limits room member.2) {stack : List Frame}
    (hroom : stack.length + (room + 1) ≤ limits.depth) (done : List (Text × Json))
    (rest : List Token) :
    (memberTokens members ++ rest).foldlM (Assembly.step limits) ⟨.object done :: stack, .next⟩ =
      rest.foldlM (Assembly.step limits) ⟨.object (members.reverse ++ done) :: stack, .next⟩ := by
  induction members generalizing done with
  | nil => rfl
  | cons member members ih =>
    obtain ⟨name, value⟩ := member
    obtain ⟨hvalue, hmembers⟩ := List.forall_mem_cons.mp h
    have hinner : (Frame.member done name :: stack).length + room ≤ limits.depth := by
      rw [List.length_cons]
      omega
    have hsupply := hvalue (.member done name :: stack) (memberTokens members ++ rest) hinner
    rw [memberTokens, List.cons_append, List.cons_append, List.cons_append, List.append_assoc,
      List.foldlM_cons]
    refine hsupply.trans ?_
    change (memberTokens members ++ rest).foldlM (Assembly.step limits)
      ⟨.object ((name, value) :: done) :: stack, .next⟩ = _
    rw [ih hmembers, List.reverse_cons, List.append_assoc, List.singleton_append]

theorem supplies_array {room : Nat} {items : List Json}
    (h : ∀ item ∈ items, Supplies limits room item) :
    Supplies limits (room + 1) (.array items) := by
  intro stack rest hroom
  have hopen : Assembly.step limits ⟨stack, .value⟩ .openArray =
      .ok ⟨.array [] :: stack, .firstItem⟩ := nest_of_room hroom _ _
  cases items with
  | nil =>
    rw [tokenList, List.cons_append, List.foldlM_cons, hopen]
    rfl
  | cons item items =>
    obtain ⟨hitem, hitems⟩ := List.forall_mem_cons.mp h
    have hinner : (Frame.array [] :: stack).length + room ≤ limits.depth := by
      rw [List.length_cons]
      omega
    have hsupply := hitem (.array [] :: stack) (itemTokens items ++ .closeArray :: rest) hinner
    rw [tokenList, List.cons_append, List.foldlM_cons, hopen, List.append_assoc, List.append_assoc,
      List.singleton_append]
    refine ((foldlM_firstItem item _ _).trans hsupply).trans ?_
    refine (foldlM_itemTokens hitems hroom [item] _).trans ?_
    rw [List.foldlM_cons]
    change (Assembly.supply stack (.array (items.reverse ++ [item]).reverse) >>= _) = _
    rw [List.reverse_append, List.reverse_reverse, List.reverse_singleton, List.singleton_append]

theorem supplies_object {room : Nat} {members : List (Text × Json)}
    (h : ∀ member ∈ members, Supplies limits room member.2) :
    Supplies limits (room + 1) (.object members) := by
  intro stack rest hroom
  have hopen : Assembly.step limits ⟨stack, .value⟩ .openObject =
      .ok ⟨.object [] :: stack, .firstName⟩ := nest_of_room hroom _ _
  cases members with
  | nil =>
    rw [tokenList, List.cons_append, List.foldlM_cons, hopen]
    rfl
  | cons member members =>
    obtain ⟨name, value⟩ := member
    obtain ⟨hvalue, hmembers⟩ := List.forall_mem_cons.mp h
    have hinner : (Frame.member [] name :: stack).length + room ≤ limits.depth := by
      rw [List.length_cons]
      omega
    have hsupply := hvalue (.member [] name :: stack) (memberTokens members ++ .closeObject :: rest)
      hinner
    rw [tokenList, List.cons_append, List.foldlM_cons, hopen, List.cons_append, List.cons_append,
      List.append_assoc, List.append_assoc, List.singleton_append]
    refine Eq.trans ?_ (hsupply.trans ?_)
    · rfl
    refine (foldlM_memberTokens hmembers hroom [(name, value)] _).trans ?_
    rw [List.foldlM_cons]
    change (Assembly.supply stack (.object (members.reverse ++ [(name, value)]).reverse) >>= _) = _
    rw [List.reverse_append, List.reverse_reverse, List.reverse_singleton, List.singleton_append]

theorem supplies_of_fits {room : Nat} {j : Json} (h : Fits limits.digits room j) :
    Supplies limits room j := by
  induction h with
  | null => exact fun stack rest _ => rfl
  | bool b => cases b <;> exact fun stack rest _ => rfl
  | number h =>
    intro stack rest _
    rw [tokenList, List.singleton_append, List.foldlM_cons]
    change Assembly.begin limits stack (.word _) >>= _ = _
    rw [Assembly.begin, h.value]
  | string t => exact fun stack rest _ => rfl
  | array _ ih => exact supplies_array ih
  | object _ ih => exact supplies_object ih

section Read

variable {l : Layout} (hl : l.Proper) {room : Nat} (hroom : room ≤ limits.depth) {j : Json}
  (h : Fits limits.digits room j)

include hl hroom h

theorem read_write_append {t : Text} (ht : ∀ c ∈ t, isSpace c = true) :
    readWithin limits (j.write l 0 ++ t) = .ok j := by
  have hsupplies := supplies_of_fits h [] [] (by simpa using hroom)
  rw [List.append_nil] at hsupplies
  rw [readWithin, tokens_write_append hl h 0 ht, Assembly.start, hsupplies]
  rfl

theorem read_write : readWithin limits (j.write l 0) = .ok j := by
  rw [← List.append_nil (j.write l 0)]
  exact read_write_append hl hroom h nofun

theorem read_write_newline : readWithin limits (j.write l 0 ++ "\n") = .ok j :=
  read_write_append hl hroom h (List.forall_mem_singleton.mpr rfl)

end Read

end Thesaurus.Json
