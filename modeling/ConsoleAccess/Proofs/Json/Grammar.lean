import ConsoleAccess.Json.Reader
import ConsoleAccess.Proofs.Json.Lexemes

/-!
# The grammar of JSON texts

`Tree.tokens` writes a tree down and `Json.Denotes t tree` holds of the texts that are made of these
tokens. Reading finds the one tree that a text says (`Tree.read?_eq_some_iff`): the reader takes each
tree back from its tokens, whatever follows (`Tree.takes`), and takes nothing else (`Tree.found`).
-/

namespace ConsoleAccess.Json
open Token

def listed (parts : List (List Token)) : List Token := [comma].intercalate parts

@[simp] theorem listed_nil : listed [] = [] := rfl

@[simp] theorem listed_singleton (part : List Token) : listed [part] = part :=
  List.intercalate_singleton

@[simp] theorem listed_cons_cons (part next : List Token) (parts : List (List Token)) :
    listed (part :: next :: parts) = part ++ comma :: listed (next :: parts) := by
  simp [listed]

namespace Tree

mutual

def tokens : Tree → List Token
  | .null => [.null]
  | .bool b => [.bool b]
  | .number n => [.number n]
  | .string text? => [.string text?]
  | .array items => openArray :: (listed (itemTokens items) ++ [closeArray])
  | .object members => openObject :: (listed (memberTokens members) ++ [closeObject])

def itemTokens : List Tree → List (List Token)
  | [] => []
  | item :: rest => item.tokens :: itemTokens rest

def memberTokens : List (Option Text × Tree) → List (List Token)
  | [] => []
  | (name?, value) :: rest => (.string name? :: colon :: value.tokens) :: memberTokens rest

end

theorem tokens_start (tree : Tree) :
    ∃ token rest, tree.tokens = token :: rest ∧ token ≠ closeArray := by
  cases tree <;> simp [tokens]

theorem listed_items_start (item : Tree) (items : List Tree) :
    ∃ token rest, listed (itemTokens (item :: items)) = token :: rest ∧ token ≠ closeArray := by
  obtain ⟨token, rest, start, opens⟩ := item.tokens_start
  cases items <;> simp [itemTokens, start, opens]

theorem listed_members_start (name? : Option Text) (value : Tree)
    (members : List (Option Text × Tree)) :
    ∃ rest, listed (memberTokens ((name?, value) :: members)) =
      .string name? :: colon :: (value.tokens ++ rest) := by
  cases members with
  | nil => exact ⟨[], by simp [memberTokens]⟩
  | cons next members => exact ⟨comma :: listed (memberTokens (next :: members)), by
      simp [memberTokens]⟩

theorem take?_openArray {token : Token} (opens : token ≠ closeArray) (fuel : Nat)
    (rest : List Token) :
    take? (fuel + 1) (openArray :: token :: rest) = takeItems? [] fuel (token :: rest) := by
  cases token with
  | closeArray => exact (opens rfl).elim
  | _ => rfl

structure Takes (fuel : Nat) : Prop where
  tree (tree : Tree) (rest : List Token) (enough : 2 * tree.tokens.length ≤ fuel) :
    take? fuel (tree.tokens ++ rest) = some (tree, rest)
  items (done : List Tree) (item : Tree) (items : List Tree) (rest : List Token)
    (enough : 2 * (listed (itemTokens (item :: items))).length < fuel) :
    takeItems? done fuel (listed (itemTokens (item :: items)) ++ closeArray :: rest) =
      some (.array (done.reverse ++ item :: items), rest)
  members (done : List (Option Text × Tree)) (name? : Option Text) (value : Tree)
    (members : List (Option Text × Tree)) (rest : List Token)
    (enough : 2 * (listed (memberTokens ((name?, value) :: members))).length < fuel) :
    takeMembers? done fuel
        (listed (memberTokens ((name?, value) :: members)) ++ closeObject :: rest) =
      some (.object (done.reverse ++ (name?, value) :: members), rest)

section
variable {fuel : Nat}

theorem Takes.tree_succ (ih : Takes fuel) (tree : Tree) (rest : List Token)
    (enough : 2 * tree.tokens.length ≤ fuel + 1) :
    take? (fuel + 1) (tree.tokens ++ rest) = some (tree, rest) := by
  cases tree with
  | array items =>
      cases items with
      | nil => simp [tokens, itemTokens, take?]
      | cons item items =>
          have taken := ih.items [] item items rest (by
            simp only [tokens, List.length_cons, List.length_append] at enough
            omega)
          obtain ⟨token, more, start, opens⟩ := listed_items_start item items
          simp only [tokens, start, List.cons_append, List.append_assoc, List.nil_append,
            take?_openArray opens] at taken ⊢
          exact taken
  | object members =>
      cases members with
      | nil => simp [tokens, memberTokens, take?]
      | cons member members =>
          obtain ⟨name?, value⟩ := member
          have taken := ih.members [] name? value members rest (by
            simp only [tokens, List.length_cons, List.length_append] at enough
            omega)
          obtain ⟨more, start⟩ := listed_members_start name? value members
          simp only [tokens, start, List.cons_append, List.append_assoc, List.nil_append,
            take?] at taken ⊢
          exact taken
  | _ => rfl

theorem Takes.items_succ (ih : Takes fuel) (done : List Tree) (item : Tree) (items : List Tree)
    (rest : List Token) (enough : 2 * (listed (itemTokens (item :: items))).length < fuel + 1) :
    takeItems? done (fuel + 1) (listed (itemTokens (item :: items)) ++ closeArray :: rest) =
      some (.array (done.reverse ++ item :: items), rest) := by
  cases items with
  | nil =>
      simp only [itemTokens, listed_singleton] at enough ⊢
      rw [takeItems?, ih.tree item _ (by omega)]
      simp
  | cons next items =>
      simp only [itemTokens, listed_cons_cons, List.length_append, List.length_cons,
        List.append_assoc, List.cons_append] at enough ⊢
      rw [takeItems?, ih.tree item _ (by omega)]
      have taken := ih.items (item :: done) next items rest (by
        rw [itemTokens]
        omega)
      simp only [itemTokens] at taken
      simp [taken]

theorem Takes.members_succ (ih : Takes fuel) (done : List (Option Text × Tree))
    (name? : Option Text) (value : Tree) (members : List (Option Text × Tree)) (rest : List Token)
    (enough : 2 * (listed (memberTokens ((name?, value) :: members))).length < fuel + 1) :
    takeMembers? done (fuel + 1)
        (listed (memberTokens ((name?, value) :: members)) ++ closeObject :: rest) =
      some (.object (done.reverse ++ (name?, value) :: members), rest) := by
  cases members with
  | nil =>
      simp only [memberTokens, listed_singleton, List.length_cons, List.cons_append] at enough ⊢
      rw [takeMembers?]
      simp only [ih.tree value _ (show 2 * value.tokens.length ≤ fuel by omega)]
      simp
  | cons next members =>
      obtain ⟨next?, value'⟩ := next
      simp only [memberTokens, listed_cons_cons, List.length_append, List.length_cons,
        List.append_assoc, List.cons_append] at enough ⊢
      rw [takeMembers?]
      simp only [ih.tree value _ (show 2 * value.tokens.length ≤ fuel by omega)]
      have taken := ih.members ((name?, value) :: done) next? value' members rest (by
        rw [memberTokens]
        omega)
      simp only [memberTokens] at taken
      simp [taken]

end

theorem takes (fuel : Nat) : Takes fuel := by
  induction fuel with
  | zero =>
      refine ⟨fun tree rest enough => ?_, fun _ _ _ _ enough => ?_, fun _ _ _ _ _ enough => ?_⟩
      · obtain ⟨token, more, start, -⟩ := tree.tokens_start
        simp [start] at enough
      · exact absurd enough (Nat.not_lt_zero _)
      · exact absurd enough (Nat.not_lt_zero _)
  | succ fuel ih => exact ⟨ih.tree_succ, ih.items_succ, ih.members_succ⟩

structure Found (fuel : Nat) : Prop where
  tree {tokens rest : List Token} {tree : Tree} (taken : take? fuel tokens = some (tree, rest)) :
    tokens = tree.tokens ++ rest
  items {done : List Tree} {tokens rest : List Token} {tree : Tree}
    (taken : takeItems? done fuel tokens = some (tree, rest)) :
    ∃ item items, tokens = listed (itemTokens (item :: items)) ++ closeArray :: rest ∧
      tree = .array (done.reverse ++ item :: items)
  members {done : List (Option Text × Tree)} {tokens rest : List Token} {tree : Tree}
    (taken : takeMembers? done fuel tokens = some (tree, rest)) :
    ∃ member members, tokens = listed (memberTokens (member :: members)) ++ closeObject :: rest ∧
      tree = .object (done.reverse ++ member :: members)

section
variable {fuel : Nat} {toks rest : List Token} {tree : Tree}

theorem Found.tree_succ (ih : Found fuel) (taken : take? (fuel + 1) toks = some (tree, rest)) :
    toks = tree.tokens ++ rest := by
  rw [take?.eq_def] at taken
  simp only at taken
  split at taken
  case h_6 =>
    obtain ⟨item, items, rfl, rfl⟩ := ih.items taken
    simp [tokens]
  case h_8 =>
    obtain ⟨member, members, rfl, rfl⟩ := ih.members taken
    simp [tokens]
  all_goals
    cases taken
    try rfl

theorem Found.items_succ (ih : Found fuel) {done : List Tree}
    (taken : takeItems? done (fuel + 1) toks = some (tree, rest)) :
    ∃ item items, toks = listed (itemTokens (item :: items)) ++ closeArray :: rest ∧
      tree = .array (done.reverse ++ item :: items) := by
  rw [takeItems?] at taken
  split at taken
  · next item more takenItem =>
    obtain ⟨next, items, rfl, rfl⟩ := ih.items taken
    exact ⟨item, next :: items, by simp [ih.tree takenItem, itemTokens], by simp⟩
  · next item more takenItem =>
    cases taken
    exact ⟨item, [], by simp [ih.tree takenItem, itemTokens], by simp⟩
  · cases taken

theorem Found.members_succ (ih : Found fuel) {done : List (Option Text × Tree)}
    (taken : takeMembers? done (fuel + 1) toks = some (tree, rest)) :
    ∃ member members, toks = listed (memberTokens (member :: members)) ++ closeObject :: rest ∧
      tree = .object (done.reverse ++ member :: members) := by
  rw [takeMembers?.eq_def] at taken
  simp only at taken
  split at taken
  · split at taken
    · next name? _ _ value more takenValue =>
      obtain ⟨next, members, rfl, rfl⟩ := ih.members taken
      refine ⟨(name?, value), next :: members, ?_, by simp⟩
      simp [ih.tree takenValue, memberTokens]
    · next name? _ _ value more takenValue =>
      cases taken
      refine ⟨(name?, value), [], ?_, by simp⟩
      simp [ih.tree takenValue, memberTokens]
    · cases taken
  · cases taken

end

theorem found (fuel : Nat) : Found fuel := by
  induction fuel with
  | zero => exact ⟨nofun, nofun, nofun⟩
  | succ fuel ih => exact ⟨ih.tree_succ, ih.items_succ, ih.members_succ⟩

theorem ofTokens?_eq_some_iff {toks : List Token} {tree : Tree} :
    ofTokens? toks = some tree ↔ toks = tree.tokens := by
  constructor
  · intro read
    unfold ofTokens? at read
    split at read
    · next taken =>
      cases read
      simpa using (found _).tree taken
    · cases read
  · rintro rfl
    have taken := (takes (2 * tree.tokens.length + 1)).tree tree [] (Nat.le_succ _)
    rw [List.append_nil] at taken
    rw [ofTokens?, taken]

/-! Numbers in a tree stand apart: a mark separates them. -/

theorem apart_cons {token : Token} (other : ¬ token.IsNumber) {toks : List Token}
    (apart : Apart toks) : Apart (token :: toks) :=
  apart.cons fun _ _ both => other both.1

theorem apart_name (name? : Option Text) {toks : List Token} (apart : Apart toks) :
    Apart (.string name? :: colon :: toks) :=
  apart_cons (by nofun) (apart_cons (by nofun) apart)

/-- No number comes next, and none of the numbers to come stand side by side. -/
def Separate (rest : List Token) : Prop :=
  Apart rest ∧ ∀ token ∈ rest.head?, ¬ token.IsNumber

theorem separate_cons {token : Token} (other : ¬ token.IsNumber) {toks : List Token}
    (apart : Apart toks) : Separate (token :: toks) :=
  ⟨apart_cons other apart, fun _ first => by cases first; exact other⟩

theorem separate_comma {toks : List Token} (apart : Apart toks) : Separate (comma :: toks) :=
  separate_cons (by nofun) apart

mutual

theorem apart_tokens (tree : Tree) {rest : List Token} (separate : Separate rest) :
    Apart (tree.tokens ++ rest) := by
  cases tree with
  | number n => exact separate.1.cons fun token first both => separate.2 token first both.2
  | array items =>
      rw [tokens, List.cons_append, List.append_assoc]
      exact apart_cons (by nofun) (apart_items items (separate_cons (by nofun) separate.1))
  | object members =>
      rw [tokens, List.cons_append, List.append_assoc]
      exact apart_cons (by nofun) (apart_members members (separate_cons (by nofun) separate.1))
  | _ => exact apart_cons (by nofun) separate.1

theorem apart_items (items : List Tree) {rest : List Token} (separate : Separate rest) :
    Apart (listed (itemTokens items) ++ rest) := by
  cases items with
  | nil => exact separate.1
  | cons item items =>
      cases items with
      | nil => simpa [itemTokens] using apart_tokens item separate
      | cons next items =>
          have apart := apart_items (next :: items) separate
          have apart := apart_tokens item (separate_comma apart)
          simpa [itemTokens] using apart

theorem apart_members (members : List (Option Text × Tree)) {rest : List Token}
    (separate : Separate rest) : Apart (listed (memberTokens members) ++ rest) := by
  cases members with
  | nil => exact separate.1
  | cons member members =>
      obtain ⟨name?, value⟩ := member
      cases members with
      | nil =>
          have apart := apart_tokens value separate
          simpa [memberTokens] using apart_name name? apart
      | cons next members =>
          have apart := apart_members (next :: members) separate
          have apart := apart_tokens value (separate_comma apart)
          simpa [memberTokens] using apart_name name? apart

end

end Tree

def Denotes (t : Text) (tree : Tree) : Prop := Spelled tree.tokens t

theorem Tree.read?_eq_some_iff {t : Text} {tree : Tree} :
    Tree.read? t = some tree ↔ Denotes t tree := by
  rw [Tree.read?, Option.bind_eq_some_iff]
  constructor
  · rintro ⟨toks, lexed, read⟩
    rw [ofTokens?_eq_some_iff.1 read] at lexed
    exact ofText?_sound lexed
  · intro spelled
    have apart : Apart (tree.tokens ++ []) := apart_tokens tree ⟨.nil, nofun⟩
    rw [List.append_nil] at apart
    exact ⟨tree.tokens, ofText?_of_spelled spelled apart, ofTokens?_eq_some_iff.2 rfl⟩

/-- A text says at most one tree. -/
theorem Denotes.unique {t : Text} {tree other : Tree} (said : Denotes t tree)
    (also : Denotes t other) : tree = other :=
  Option.some.inj ((Tree.read?_eq_some_iff.2 said).symm.trans (Tree.read?_eq_some_iff.2 also))

end ConsoleAccess.Json
