import ConsoleAccess.Http.Url
import ConsoleAccess.Proofs.Text.Letters
import Mathlib.Data.List.DropRight
import Mathlib.Data.List.TakeDrop
import Mathlib.Data.List.TakeWhile

/-!
# Addresses below a directory

What an address comes to when a plain path is put behind it (`Url.reading`): for most the address is
a directory and the path lies below it, also where the address has a query; behind a fragment the
path is lost; and where the address lacks a host, the first part of the path is taken for one.
-/

namespace ConsoleAccess.Http.Url

/-! ## The steps of reading -/

def isControl (c : Char) : Bool := c.toNat ≤ 0x20

def isKept (c : Char) : Bool := c != '\t' && c != '\n' && c != '\r'

def cleaned (raw : Text) : Text :=
  ((raw.dropWhile isControl).rdropWhile isControl).filter isKept

def page (origin : Origin) (rest : Text) : Url :=
  let (path, rest) := (rest.takeWhile (· != '#')).span (· != '?')
  { origin
    path := resolvePath path
    query :=
      match rest with
      | [] => none
      | _ :: query => some (percentEncode queryReserved query) }

def site? (secure : Bool) (t : Text) : Option Url :=
  (authority? secure (t.takeWhile (!endsAuthority ·))).map fun origin =>
    page origin (t.dropWhile (!endsAuthority ·))

theorem parse?_eq (raw : Text) :
    parse? raw = (scheme? (cleaned raw)).bind fun (scheme, rest) =>
      if scheme != "http".toList && scheme != "https".toList then none
      else site? (scheme == "https".toList) (rest.dropWhile isSlash) := by
  have trimmed : (((raw.dropWhile fun c => decide (c.toNat ≤ 0x20)).reverse.dropWhile
      fun c => decide (c.toNat ≤ 0x20)).reverse.filter
        fun c => c != '\t' && c != '\n' && c != '\r') = cleaned raw := rfl
  unfold parse?
  simp only [trimmed]
  cases scheme? (cleaned raw) with
  | none => rfl
  | some split =>
      obtain ⟨scheme, rest⟩ := split
      simp only [Option.bind_some, site?, List.span_eq_takeWhile_dropWhile, page]
      split
      · rfl
      · cases authority? (scheme == "https".toList)
            ((rest.dropWhile isSlash).takeWhile (!endsAuthority ·)) <;> rfl

/-! ## Plain texts -/

def isPlain (c : Char) : Bool := c.isAlphanum || c == '/'

/-- Nothing in the text is dropped, encoded or told apart by the reading, but slashes. -/
def Plain (t : Text) : Prop := ∀ c ∈ t, isPlain c = true

theorem plain_of_all {t : Text} (plain : t.all isPlain = true) : Plain t := List.all_eq_true.1 plain

section
variable {c : Char}

theorem ne_of_isPlain (plain : isPlain c = true) {d : Char} (odd : isPlain d = false) : c ≠ d := by
  rintro rfl
  rw [odd] at plain
  cases plain

theorem bounds_of_isPlain (plain : isPlain c = true) : 47 ≤ c.toNat ∧ c.toNat ≤ 122 := by
  have slash : '/'.toNat = 47 := rfl
  unfold isPlain Char.isAlphanum Char.isAlpha Char.isUpper Char.isLower Char.isDigit at plain
  simp only [Bool.or_eq_true, Bool.and_eq_true, decide_eq_true_eq, beq_iff_eq, ge_iff_le,
    UInt32.le_iff_toNat_le] at plain
  rcases plain with ((upper | lower) | digit) | rfl
  · exact ⟨Nat.le_trans (by decide) upper.1, Nat.le_trans upper.2 (by decide)⟩
  · exact ⟨Nat.le_trans (by decide) lower.1, Nat.le_trans lower.2 (by decide)⟩
  · exact ⟨Nat.le_trans (by decide) digit.1, Nat.le_trans digit.2 (by decide)⟩
  · omega

theorem isControl_of_isPlain (plain : isPlain c = true) : isControl c = false := by
  have bounds := bounds_of_isPlain plain
  simp only [isControl, decide_eq_false_iff_not]
  omega

theorem isKept_of_isPlain (plain : isPlain c = true) : isKept c = true := by
  have tab := ne_of_isPlain plain (d := '\t') rfl
  have feed := ne_of_isPlain plain (d := '\n') rfl
  have carriage := ne_of_isPlain plain (d := '\r') rfl
  simp [isKept, tab, feed, carriage]

theorem isSlash_of_isPlain (plain : isPlain c = true) : isSlash c = (c == '/') := by
  have back := ne_of_isPlain plain (d := '\\') rfl
  simp [isSlash, back]

theorem toLower_ne_of_isPlain (plain : isPlain c = true) {d : Char} (low : d.toNat < 47) :
    c.toLower ≠ d := by
  have bounds := bounds_of_isPlain plain
  rintro rfl
  rcases Text.toLower_eq_self_or_letter c with same | ⟨-, lowered⟩
  · rw [same] at low
    omega
  · omega

end

theorem percentEncode_append (reserved : List Char) (s t : Text) :
    percentEncode reserved (s ++ t) = percentEncode reserved s ++ percentEncode reserved t :=
  List.flatMap_append

theorem percentEncode_plain {reserved : List Char} (odd : ∀ c ∈ reserved, isPlain c = false)
    {t : Text} (plain : Plain t) : percentEncode reserved t = t := by
  induction t with
  | nil => rfl
  | cons c t ih =>
      obtain ⟨own, plain⟩ := List.forall_mem_cons.1 plain
      have bounds := bounds_of_isPlain own
      have free : c ∉ reserved := fun member => by
        rw [odd c member] at own
        cases own
      have low : ¬ c.toNat ≤ 0x1F := by omega
      have high : ¬ 0x7E < c.toNat := by omega
      rw [← List.singleton_append, percentEncode_append, ih plain]
      simp [percentEncode, low, high, free]

theorem odd_of_all {reserved : List Char} (odd : reserved.all (!isPlain ·) = true) :
    ∀ c ∈ reserved, isPlain c = false := by
  simpa using odd

theorem pathReserved_odd : ∀ c ∈ pathReserved, isPlain c = false := odd_of_all rfl

theorem queryReserved_odd : ∀ c ∈ queryReserved, isPlain c = false := odd_of_all rfl

/-! ## Paths -/

/-- The segments that are left of a path, last one first, when more of it follows. -/
def climb (done : List Text) : List Text → List Text
  | [] => done
  | segment :: rest =>
    let plain := segment.lower
    let dot : Text := ['.']
    let coded : Text := ['%', '2', 'e']
    let isDouble := [dot ++ dot, dot ++ coded, coded ++ dot, coded ++ coded].contains plain
    if isDouble then climb (parent done) rest
    else if plain == dot || plain == coded then climb done rest
    else climb (segment :: done) rest

theorem resolve_append (done segments : List Text) {more : List Text} (follows : more ≠ []) :
    resolve done (segments ++ more) = resolve (climb done segments) more := by
  induction segments generalizing done with
  | nil => rfl
  | cons segment segments ih =>
      have further : (segments ++ more).isEmpty = false := by
        simp [follows]
      simp only [List.cons_append, resolve, climb, further, Bool.false_eq_true, if_false, ih]
      split
      · rfl
      · split <;> rfl

theorem resolve_plain (done : List Text) {segments : List Text}
    (plain : ∀ segment ∈ segments, Plain segment) :
    resolve done segments = done.reverse ++ segments := by
  induction segments generalizing done with
  | nil => simp [resolve]
  | cons segment segments ih =>
      obtain ⟨own, plain⟩ := List.forall_mem_cons.1 plain
      have named : ∀ c ∈ segment.lower.head?, c ≠ '.' ∧ c ≠ '%' := by
        intro c first
        cases segment with
        | nil => cases first
        | cons d segment =>
            cases first
            have own := own d List.mem_cons_self
            exact ⟨toLower_ne_of_isPlain own (by decide), toLower_ne_of_isPlain own (by decide)⟩
      rw [resolve]
      generalize segment.lower = lowered at named
      have double : ([['.'] ++ ['.'], ['.'] ++ ['%', '2', 'e'], ['%', '2', 'e'] ++ ['.'],
          ['%', '2', 'e'] ++ ['%', '2', 'e']].contains lowered) = false := by
        rw [List.contains_eq_mem, decide_eq_false_iff_not]
        intro member
        simp only [List.cons_append, List.nil_append, List.mem_cons, List.not_mem_nil, or_false]
          at member
        rcases member with rfl | rfl | rfl | rfl
        all_goals simp at named
      have single : (lowered == ['.'] || lowered == ['%', '2', 'e']) = false := by
        rw [Bool.or_eq_false_iff, beq_eq_false_iff_ne, beq_eq_false_iff_ne]
        constructor
        all_goals
          rintro rfl
          simp at named
      simp only [double, single, Bool.false_eq_true, if_false, ih _ plain]
      simp

theorem plain_of_mem_splitOnP {t segment : Text} (plain : Plain t)
    (member : segment ∈ t.splitOnP isSlash) : Plain segment := by
  induction t generalizing segment with
  | nil =>
      rw [List.splitOnP_nil, List.mem_singleton] at member
      subst member
      exact nofun
  | cons c t ih =>
      obtain ⟨own, plain⟩ := List.forall_mem_cons.1 plain
      rw [List.splitOnP_cons_eq_if_modifyHead] at member
      split at member
      · rcases List.mem_cons.1 member with rfl | member
        · exact nofun
        · exact ih plain member
      · cases segments : t.splitOnP isSlash with
        | nil => exact absurd segments (List.splitOnP_ne_nil _ _)
        | cons first segments' =>
            rw [segments, List.modifyHead_cons] at member
            rw [segments] at ih
            rcases List.mem_cons.1 member with rfl | member
            · exact List.forall_mem_cons.2 ⟨own, ih plain List.mem_cons_self⟩
            · exact ih plain (List.mem_cons_of_mem _ member)

theorem intercalate_splitOnP {t : Text} (plain : Plain t) :
    ['/'].intercalate (t.splitOnP isSlash) = t := by
  induction t with
  | nil => rfl
  | cons c t ih =>
      obtain ⟨own, plain⟩ := List.forall_mem_cons.1 plain
      rw [List.splitOnP_cons_eq_if_modifyHead]
      split
      · next slash =>
        rw [isSlash_of_isPlain own, beq_iff_eq] at slash
        rw [List.intercalate_cons_of_ne_nil (List.splitOnP_ne_nil _ _), ih plain, slash]
        rfl
      · cases segments : t.splitOnP isSlash with
        | nil => exact absurd segments (List.splitOnP_ne_nil _ _)
        | cons first segments' =>
            rw [segments] at ih
            rw [List.modifyHead_cons, List.intercalate_cons_cons_left, ih plain]

theorem intercalate_append (segments : List Text) {more : List Text} (follows : more ≠ []) :
    ['/'].intercalate (segments ++ more) =
      ['/'].intercalate (segments ++ [[]]) ++ ['/'].intercalate more := by
  induction segments with
  | nil => simp
  | cons segment segments ih =>
      rw [List.cons_append, List.cons_append, List.intercalate_cons_of_ne_nil (by simp [follows]),
        List.intercalate_cons_of_ne_nil (by simp), ih]
      simp

theorem resolve_segments (segments : List Text) {t : Text} (plain : Plain t) :
    ['/'].intercalate
        (resolve [] (segments ++ (t.splitOnP isSlash).map (percentEncode pathReserved))) =
      ['/'].intercalate ((climb [] segments).reverse ++ [[]]) ++ t := by
  have plain_segments : ∀ segment ∈ t.splitOnP isSlash, Plain segment :=
    fun segment => plain_of_mem_splitOnP plain
  have same : (t.splitOnP isSlash).map (percentEncode pathReserved) = t.splitOnP isSlash := by
    refine (List.map_congr_left fun segment member => ?_).trans (List.map_id _)
    exact percentEncode_plain pathReserved_odd (plain_segments segment member)
  rw [same, resolve_append _ _ (List.splitOnP_ne_nil _ _), resolve_plain _ plain_segments,
    intercalate_append _ (List.splitOnP_ne_nil _ _), intercalate_splitOnP plain]

theorem resolvePath_cons {c : Char} (slash : isSlash c = true) (rest : Text) :
    resolvePath (c :: rest) = '/' ::
      ['/'].intercalate (resolve [] ((rest.splitOnP isSlash).map (percentEncode pathReserved))) := by
  rw [resolvePath]
  simp only [slash, if_true]

/-- The path of a plain text below a directory starts with the path of the directory. -/
theorem resolvePath_below {rest t : Text} (rooted : ∀ c ∈ rest.head?, isSlash c = true)
    (plain : Plain t) : resolvePath (rest ++ '/' :: t) = resolvePath (rest ++ ['/']) ++ t := by
  cases rest with
  | nil =>
      have whole := resolve_segments [] plain
      have directory := resolve_segments [] (t := []) nofun
      rw [List.nil_append] at whole directory
      rw [List.nil_append, List.nil_append, resolvePath_cons rfl, resolvePath_cons rfl, whole,
        directory, List.append_nil, List.cons_append]
  | cons c rest =>
      have slash := rooted c rfl
      rw [List.cons_append, List.cons_append, resolvePath_cons slash, resolvePath_cons slash,
        List.splitOnP_append_cons rest t rfl, List.splitOnP_append_cons rest [] rfl,
        List.map_append, List.map_append, resolve_segments _ plain,
        resolve_segments _ (t := []) nofun, List.append_nil, List.cons_append]

/-! ## Cuts -/

theorem takeWhile_append_stop {p : Char → Bool} {c : Char} (stops : p c = false) (s rest : Text) :
    (s ++ c :: rest).takeWhile p = s.takeWhile p := by
  induction s with
  | nil => exact List.takeWhile_cons_of_neg (Bool.eq_false_iff.1 stops)
  | cons d s ih => rw [List.cons_append, List.takeWhile_cons, List.takeWhile_cons, ih]

theorem dropWhile_append_stop {p : Char → Bool} {c : Char} (stops : p c = false) (s rest : Text) :
    (s ++ c :: rest).dropWhile p = s.dropWhile p ++ c :: rest := by
  induction s with
  | nil => exact List.dropWhile_cons_of_neg (Bool.eq_false_iff.1 stops)
  | cons d s ih =>
      rw [List.cons_append, List.dropWhile_cons, List.dropWhile_cons, ih]
      split <;> rfl

theorem takeWhile_of_absent {c : Char} {t : Text} (absent : c ∉ t) :
    t.takeWhile (· != c) = t ∧ t.dropWhile (· != c) = [] := by
  have all : ∀ d ∈ t, (d != c) = true := fun d member =>
    bne_iff_ne.2 fun same => absent (same ▸ member)
  exact ⟨List.takeWhile_eq_self_iff.2 all, List.dropWhile_eq_nil_iff.2 all⟩

theorem takeWhile_append_mark {c : Char} {before : Text} (absent : c ∉ before) (rest : Text) :
    (before ++ c :: rest).takeWhile (· != c) = before ∧
      (before ++ c :: rest).dropWhile (· != c) = c :: rest := by
  obtain ⟨taken, dropped⟩ := takeWhile_of_absent absent
  have stops : (c != c) = false := bne_self_eq_false c
  rw [takeWhile_append_stop (p := (· != c)) stops, dropWhile_append_stop (p := (· != c)) stops,
    taken, dropped]
  exact ⟨rfl, rfl⟩

theorem not_mem_below {c : Char} (odd : isPlain c = false) {rest t : Text} (absent : c ∉ rest)
    (plain : Plain t) : c ∉ rest ++ '/' :: t := by
  rw [List.mem_append, List.mem_cons]
  rintro (member | rfl | member)
  · exact absent member
  · cases odd
  · exact ne_of_isPlain (plain _ member) odd rfl

/-! ## Queries and fragments -/

/-- The resource of a plain path below a directory. Behind a query the path is part of the query. -/
def below (u : Url) (t : Text) : Url :=
  match u.query with
  | none => { u with path := u.path ++ t }
  | some query => { u with query := some (query ++ t) }

theorem target_below (u : Url) (t : Text) : (u.below t).target = u.target ++ t := by
  unfold below target
  cases query : u.query <;> simp

theorem page_of_fragment {rest : Text} (fragment : '#' ∈ rest) (origin : Origin) (t u : Text) :
    page origin (rest ++ t) = page origin (rest ++ u) := by
  obtain ⟨before, after, rfl, absent⟩ := List.eq_append_cons_of_mem fragment
  simp only [page, List.append_assoc, List.cons_append, takeWhile_append_mark absent]

theorem page_of_path {rest : Text} (whole : '#' ∉ rest) (path : '?' ∉ rest) (origin : Origin) :
    page origin rest = { origin, path := resolvePath rest, query := none } := by
  simp only [page, List.span_eq_takeWhile_dropWhile, takeWhile_of_absent whole,
    takeWhile_of_absent path]

theorem page_of_query {before after : Text} (whole : '#' ∉ before ++ '?' :: after)
    (absent : '?' ∉ before) (origin : Origin) :
    page origin (before ++ '?' :: after) =
      { origin, path := resolvePath before, query := some (percentEncode queryReserved after) } := by
  simp only [page, List.span_eq_takeWhile_dropWhile, takeWhile_of_absent whole,
    takeWhile_append_mark absent]

theorem page_below {rest t : Text} (whole : '#' ∉ rest)
    (follows : ∀ c ∈ rest.head?, endsAuthority c = true) (plain : Plain t) (origin : Origin) :
    page origin (rest ++ '/' :: t) = (page origin (rest ++ ['/'])).below t := by
  have nothing : Plain [] := nofun
  have whole_below {t : Text} (plain : Plain t) := not_mem_below rfl whole plain
  by_cases query : '?' ∈ rest
  · obtain ⟨before, after, rfl, absent⟩ := List.eq_append_cons_of_mem query
    simp only [List.append_assoc, List.cons_append] at whole_below ⊢
    have encoded : percentEncode queryReserved (after ++ '/' :: t) =
        percentEncode queryReserved (after ++ ['/']) ++ t := by
      rw [List.append_cons, percentEncode_append, percentEncode_plain queryReserved_odd plain]
    rw [page_of_query (whole_below plain) absent, page_of_query (whole_below nothing) absent, encoded,
      below]
  · have path_below {t : Text} (plain : Plain t) := not_mem_below rfl query plain
    have rooted : ∀ c ∈ rest.head?, isSlash c = true := by
      intro c first
      have ends := follows c first
      have member := List.mem_of_mem_head? first
      simp only [endsAuthority, Bool.or_eq_true, beq_iff_eq] at ends
      rcases ends with (slash | rfl) | rfl
      · exact slash
      · exact (query member).elim
      · exact (whole member).elim
    rw [page_of_path (whole_below plain) (path_below plain),
      page_of_path (whole_below nothing) (path_below nothing), resolvePath_below rooted plain, below]

/-! ## Schemes and authorities -/

def start (base : Text) : Text := (base.dropWhile isControl).filter isKept

theorem cleaned_below (base : Text) {t : Text} (plain : Plain t) :
    cleaned (base ++ '/' :: t) = start base ++ '/' :: t := by
  have plain_slash : Plain ('/' :: t) := List.forall_mem_cons.2 ⟨rfl, plain⟩
  have back : (base.dropWhile isControl ++ '/' :: t).rdropWhile isControl =
      base.dropWhile isControl ++ '/' :: t := by
    rw [List.rdropWhile_eq_self_iff]
    intro nonempty
    rw [List.getLast_append_of_ne_nil _ (List.cons_ne_nil '/' t)]
    exact Bool.eq_false_iff.1 (isControl_of_isPlain (plain_slash _ (List.getLast_mem _)))
  have kept : ('/' :: t).filter isKept = '/' :: t :=
    List.filter_eq_self.2 fun c member => isKept_of_isPlain (plain_slash c member)
  rw [cleaned, dropWhile_append_stop rfl, back, List.filter_append, kept, start]

theorem scheme?_of_colon {name : Text} (absent : ':' ∉ name) (rest : Text) :
    scheme? (name ++ ':' :: rest) = some (name.lower, rest) := by
  simp only [scheme?, List.span_eq_takeWhile_dropWhile, takeWhile_append_mark absent]

theorem scheme?_of_absent {t : Text} (absent : ':' ∉ t) : scheme? t = none := by
  simp only [scheme?, List.span_eq_takeWhile_dropWhile, takeWhile_of_absent absent]

theorem dropSlashes_below (rest t : Text) :
    (rest ++ '/' :: t).dropWhile isSlash =
      if rest.dropWhile isSlash = [] then t.dropWhile isSlash
      else rest.dropWhile isSlash ++ '/' :: t := by
  rw [List.dropWhile_append]
  simp only [List.isEmpty_iff]
  split
  · exact List.dropWhile_cons_of_pos rfl
  · rfl

theorem site?_below (secure : Bool) (rest t : Text) :
    site? secure (rest ++ '/' :: t) =
      (authority? secure (rest.takeWhile (!endsAuthority ·))).map fun origin =>
        page origin (rest.dropWhile (!endsAuthority ·) ++ '/' :: t) := by
  have slash : (!endsAuthority '/') = false := rfl
  rw [site?, takeWhile_append_stop slash, dropWhile_append_stop slash]

theorem mem_dropWhile_iff {p : Char → Bool} {c : Char} (stays : p c = false) {t : Text} :
    c ∈ t.dropWhile p ↔ c ∈ t := by
  conv_rhs => rw [← List.takeWhile_append_dropWhile (p := p) (l := t), List.mem_append]
  refine ⟨.inr, fun member => member.resolve_left fun dropped => ?_⟩
  rw [List.mem_takeWhile_imp dropped] at stays
  cases stays

theorem hash_mem_start_iff (base : Text) : '#' ∈ start base ↔ '#' ∈ base := by
  simp [start, mem_dropWhile_iff (p := isControl) (c := '#') rfl, isKept]

theorem hash_not_mem_of_lower {name : Text}
    (web : Text.lower name = "http".toList ∨ Text.lower name = "https".toList) : '#' ∉ name := by
  intro member
  have lowered : '#' ∈ Text.lower name := List.mem_map.2 ⟨'#', member, rfl⟩
  rcases web with web | web
  all_goals
    rw [web] at lowered
    exact absurd lowered (by decide)

/-- No address with plain texts behind it can be read, or in each of them the same follows the
scheme. -/
theorem parse?_below (base : Text) :
    (∀ t, Plain t → parse? (base ++ '/' :: t) = none) ∨
      ∃ secure rest, ('#' ∈ rest ↔ '#' ∈ base) ∧ ∀ t, Plain t →
        parse? (base ++ '/' :: t) = site? secure ((rest ++ '/' :: t).dropWhile isSlash) := by
  by_cases colon : ':' ∈ start base
  case neg =>
    refine .inl fun t plain => ?_
    rw [parse?_eq, cleaned_below base plain, scheme?_of_absent (not_mem_below rfl colon plain)]
    rfl
  obtain ⟨name, rest, whole, absent⟩ := List.eq_append_cons_of_mem colon
  have parsed {t : Text} (plain : Plain t) : parse? (base ++ '/' :: t) =
      if Text.lower name != "http".toList && Text.lower name != "https".toList then none
      else site? (Text.lower name == "https".toList) ((rest ++ '/' :: t).dropWhile isSlash) := by
    rw [parse?_eq, cleaned_below base plain, whole, List.append_assoc, List.cons_append,
      scheme?_of_colon absent]
    rfl
  by_cases web : Text.lower name = "http".toList ∨ Text.lower name = "https".toList
  · refine .inr ⟨Text.lower name == "https".toList, rest, ?_, fun t plain => ?_⟩
    · rw [← hash_mem_start_iff base, whole, List.mem_append, List.mem_cons]
      simp [hash_not_mem_of_lower web]
    · rw [parsed plain]
      refine if_neg ?_
      rcases web with web | web
      all_goals simp [web]
  · rw [not_or] at web
    refine .inl fun t plain => ?_
    rw [parsed plain]
    refine if_pos ?_
    simp only [Bool.and_eq_true, bne_iff_ne]
    exact web

/-! ## Addresses -/

inductive Reading (base : Text) : Prop
  | unread (none : ∀ t, Plain t → parse? (base ++ '/' :: t) = none)
  | directory (root : Url) (parsed : parse? (base ++ ['/']) = some root)
      (paths : ∀ t, Plain t →
        parse? (base ++ '/' :: t) = some (if '#' ∈ base then root else root.below t))
  | hostless (secure : Bool) (none : parse? (base ++ ['/']) = none)
      (paths : ∀ t, Plain t → parse? (base ++ '/' :: t) = site? secure (t.dropWhile isSlash))

theorem site?_nil (secure : Bool) : site? secure [] = none := by
  cases secure <;> decide

theorem reading (base : Text) : Reading base := by
  rcases parse?_below base with unread | ⟨secure, rest, hash, located⟩
  · exact .unread unread
  by_cases host : rest.dropWhile isSlash = []
  · simp only [dropSlashes_below, host, if_true] at located
    refine .hostless secure ?_ fun t plain => located t plain
    rw [located [] nofun]
    exact site?_nil secure
  simp only [dropSlashes_below, host, if_false, site?_below] at located
  generalize authority : authority? secure _ = origin? at located
  cases origin? with
  | none => exact .unread fun t plain => located t plain
  | some origin =>
      refine .directory _ (located [] nofun) fun t plain => (located t plain).trans ?_
      have follows : ∀ c ∈ ((rest.dropWhile isSlash).dropWhile (!endsAuthority ·)).head?,
          endsAuthority c = true := by
        intro c first
        have stops := List.head?_dropWhile_not (!endsAuthority ·) (rest.dropWhile isSlash)
        rw [Option.mem_def.1 first] at stops
        simpa using stops
      have hash' : '#' ∈ (rest.dropWhile isSlash).dropWhile (!endsAuthority ·) ↔ '#' ∈ base := by
        rw [mem_dropWhile_iff rfl, mem_dropWhile_iff rfl, hash]
      by_cases fragment : '#' ∈ base
      · rw [if_pos fragment]
        exact congrArg some (page_of_fragment (hash'.2 fragment) origin _ _)
      · rw [if_neg fragment]
        exact congrArg some (page_below (mt hash'.1 fragment) follows plain origin)

end ConsoleAccess.Http.Url
