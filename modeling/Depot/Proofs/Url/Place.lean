import Mathlib.Data.List.TakeWhile
import Depot.Url.Valid
/-!
# What a web address names

A web address is read as the network reads it. Blanks around it and line ends in it do not count,
slashes and backslashes separate, the path ends where a query or a fragment begins, and dot segments
are taken out of it. The characters of the path are left as they are.
-/
namespace Depot.Url

/-- A server, by its scheme and authority, and a path on it. -/
structure Place where
  scheme : String
  authority : List Char
  path : List (List Char)
  deriving DecidableEq

def separates (c : Char) : Bool := c = '/' || c = '\\'

/-- Whether a character ends a path. -/
def endsPath (c : Char) : Bool := c = '?' || c = '#'

/-- The number of dots of which a segment consists, each of them plain or percent-encoded. -/
def dots? : List Char → Option Nat
  | [] => some 0
  | '.' :: rest => (dots? rest).map (· + 1)
  | '%' :: '2' :: 'e' :: rest => (dots? rest).map (· + 1)
  | '%' :: '2' :: 'E' :: rest => (dots? rest).map (· + 1)
  | _ => none

/-- Whether a segment stands for a directory that is there: this one or the one above it. -/
def isDots (s : List Char) : Bool := dots? s = some 1 || dots? s = some 2

/-- Where a segment leads to from below some directories. -/
def enter (dirs : List (List Char)) (s : List Char) : List (List Char) :=
  if dots? s = some 2 then dirs.dropLast else if dots? s = some 1 then dirs else dirs ++ [s]

/-- The path that segments lead to. At the end of a path, a dot segment leaves the slash before it,
and a path without segments is the one of a slash. -/
def resolve (dirs : List (List Char)) : List (List Char) → List (List Char)
  | [] => dirs ++ [[]]
  | [s] => if isDots s then enter dirs s ++ [[]] else enter dirs s
  | s :: t :: rest => resolve (enter dirs s) (t :: rest)

/-- What stands before the first separator, and what stands behind each. -/
def split : List Char → List Char × List (List Char)
  | [] => ([], [])
  | c :: rest =>
    let (first, more) := split rest
    if separates c then ([], first :: more) else (c :: first, more)

/-- What follows a scheme and its slashes: the authority and the path. -/
def readText (scheme : String) (text : List Char) : Place :=
  let (authority, segments) := split (text.takeWhile (!endsPath ·))
  ⟨scheme, authority, resolve [] segments⟩

/-- What a text names if it is a web address. -/
def place? (s : String) : Option Place :=
  match scheme? (stripped s) with
  | none => none
  | some (scheme, rest) =>
    if webSchemes.contains scheme then some (readText scheme (rest.dropWhile separates)) else none

/-- Whether one place is on the server of another, and its path is that of the other, with or without
the slash at its end, and then some segments. -/
def Place.IsBelow (p service : Place) (tail : List (List Char)) : Prop :=
  p.scheme = service.scheme ∧ p.authority = service.authority ∧
    ∃ dirs, (service.path = dirs ∨ service.path = dirs ++ [[]]) ∧ p.path = dirs ++ tail

/-! ## Splitting and dots -/

theorem split_append_separator (x y : List Char) :
    split (x ++ '/' :: y) = ((split x).1, (split x).2 ++ (split y).1 :: (split y).2) := by
  induction x with
  | nil => rfl
  | cons c x ih =>
    simp only [List.cons_append, split, ih]
    cases separates c <;> rfl

theorem split_of_segment {y : List Char} (h : ∀ c ∈ y, separates c = false) : split y = (y, []) := by
  induction y with
  | nil => rfl
  | cons c y ih =>
    obtain ⟨hc, hy⟩ := List.forall_mem_cons.mp h
    simp only [split, ih hy, hc]
    rfl

/-- What has no separator belongs to the last part before it. -/
theorem split_append {y : List Char} (h : ∀ c ∈ y, separates c = false) (x : List Char) :
    ((split x).2 = [] → split (x ++ y) = ((split x).1 ++ y, [])) ∧
      ∀ front b, (split x).2 = front ++ [b] →
        split (x ++ y) = ((split x).1, front ++ [b ++ y]) := by
  induction x with
  | nil =>
    refine ⟨fun _ => split_of_segment h, fun front b hb => ?_⟩
    exact absurd hb.symm (List.append_ne_nil_of_right_ne_nil front (List.cons_ne_nil _ _))
  | cons c x ih =>
    obtain ⟨alone, after⟩ := ih
    simp only [split, List.cons_append]
    cases separates c with
    | false =>
      refine ⟨fun none => ?_, fun front b hb => ?_⟩
      · rw [alone none]; rfl
      · rw [after front b hb]; rfl
    | true =>
      refine ⟨fun none => absurd none (List.cons_ne_nil _ _), fun front b hb => ?_⟩
      cases front with
      | nil =>
        obtain ⟨rfl, none⟩ := List.cons.inj hb
        rw [alone none]
        rfl
      | cons first front =>
        obtain ⟨rfl, more⟩ := List.cons.inj hb
        rw [after front b more]
        rfl

/-- Segments that are written behind a text, each after a slash. -/
def written (segments : List (List Char)) : List Char := segments.flatMap ('/' :: ·)

theorem split_append_written {segments : List (List Char)}
    (h : ∀ s ∈ segments, ∀ c ∈ s, separates c = false) (x : List Char) :
    split (x ++ written segments) = ((split x).1, (split x).2 ++ segments) := by
  induction segments generalizing x with
  | nil => simp [written]
  | cons s rest ih =>
    obtain ⟨hs, hrest⟩ := List.forall_mem_cons.mp h
    have parts : x ++ written (s :: rest) = (x ++ '/' :: s) ++ written rest := by simp [written]
    rw [parts, ih hrest, split_append_separator, split_of_segment hs]
    simp

theorem separates_of_blank {c : Char} (h : c.toNat ≤ 0x20) : separates c = false := by
  have slash : c ≠ '/' := by rintro rfl; revert h; decide
  have backslash : c ≠ '\\' := by rintro rfl; revert h; decide
  simp [separates, slash, backslash]

theorem not_blank_of_dots {s : List Char} {n : Nat} (h : dots? s = some n) :
    ∀ c ∈ s, 0x20 < c.toNat := by
  fun_induction dots? s generalizing n with
  | case1 => simp
  | case2 rest ih =>
    obtain ⟨k, hk, -⟩ := Option.map_eq_some_iff.mp h
    exact List.forall_mem_cons.mpr ⟨by decide, ih hk⟩
  | case3 rest ih | case4 rest ih =>
    obtain ⟨k, hk, -⟩ := Option.map_eq_some_iff.mp h
    simp only [List.forall_mem_cons]
    exact ⟨by decide, by decide, by decide, ih hk⟩
  | case5 => cases h

/-- Behind blanks there are no dots. -/
theorem isDots_append_blanks {ws : List Char} (h : ∀ c ∈ ws, c.toNat ≤ 0x20) (some : ws ≠ [])
    (b : List Char) : isDots (b ++ ws) = false := by
  obtain ⟨c, rest, rfl⟩ := List.exists_cons_of_ne_nil some
  have none (n : Nat) : dots? (b ++ c :: rest) ≠ .some n := fun hd =>
    Nat.not_lt.mpr (h c (List.mem_cons_self ..))
      (not_blank_of_dots hd c (List.mem_append_right b (List.mem_cons_self ..)))
  simp [isDots, none]

/-! ## Resolving -/

theorem resolve_append (dirs s : List (List Char)) {t : List (List Char)} (h : t ≠ []) :
    resolve dirs (s ++ t) = resolve (s.foldl enter dirs) t := by
  induction s generalizing dirs with
  | nil => rfl
  | cons x s ih =>
    obtain ⟨y, rest, more⟩ := List.exists_cons_of_ne_nil (List.append_ne_nil_of_right_ne_nil s h)
    rw [List.cons_append, more, resolve, ← more, ih, List.foldl_cons]

theorem enter_of_not_dots {s : List Char} (h : isDots s = false) (dirs : List (List Char)) :
    enter dirs s = dirs ++ [s] := by
  simp only [isDots, Bool.or_eq_false_iff, decide_eq_false_iff_not] at h
  rw [enter, if_neg h.2, if_neg h.1]

theorem resolve_of_not_dots {t : List (List Char)} (ht : t ≠ []) (h : ∀ s ∈ t, isDots s = false)
    (dirs : List (List Char)) : resolve dirs t = dirs ++ t := by
  induction t generalizing dirs with
  | nil => exact absurd rfl ht
  | cons s t ih =>
    obtain ⟨hs, hrest⟩ := List.forall_mem_cons.mp h
    cases t with
    | nil => rw [resolve, hs, enter_of_not_dots hs]; rfl
    | cons s' rest =>
      rw [resolve, ih (List.cons_ne_nil _ _) hrest, enter_of_not_dots hs, List.append_assoc]
      rfl

/-- A path has no dot segments. -/
theorem not_dots_of_mem_resolve {dirs t : List (List Char)} (h : ∀ s ∈ dirs, isDots s = false) :
    ∀ s ∈ resolve dirs t, isDots s = false := by
  have entered {dirs : List (List Char)} (h : ∀ s ∈ dirs, isDots s = false) (x : List Char) :
      ∀ s ∈ enter dirs x, isDots s = false := by
    intro s hs
    rw [enter] at hs
    split at hs
    · exact h s ((List.dropLast_sublist _).subset hs)
    · split at hs
      · exact h s hs
      · rename_i two one
        rcases List.mem_append.mp hs with hs | hs
        · exact h s hs
        · rw [List.mem_singleton.mp hs, isDots, decide_eq_false two, decide_eq_false one]
          rfl
  have slash {dirs : List (List Char)} (h : ∀ s ∈ dirs, isDots s = false) :
      ∀ s ∈ dirs ++ [[]], isDots s = false := by
    intro s hs
    rcases List.mem_append.mp hs with hs | hs
    · exact h s hs
    · rw [List.mem_singleton.mp hs]
      rfl
  induction t generalizing dirs with
  | nil => exact slash h
  | cons s t ih =>
    cases t with
    | nil =>
      rw [resolve]
      split
      · exact slash (entered h s)
      · exact entered h s
    | cons s' rest => exact ih (entered h s)

theorem resolve_eq_or (dirs s : List (List Char)) :
    resolve dirs s = s.foldl enter dirs ∨ resolve dirs s = s.foldl enter dirs ++ [[]] := by
  induction s generalizing dirs with
  | nil => exact .inr rfl
  | cons x s ih =>
    cases s with
    | nil =>
      rw [resolve]
      split
      · exact .inr rfl
      · exact .inl rfl
    | cons y rest => exact ih (enter dirs x)

theorem length_enter_of_dots {s : List Char} (h : isDots s = true) (dirs : List (List Char)) :
    (enter dirs s).length ≤ dirs.length := by
  rw [enter]
  split
  · simp
  · split
    · exact Nat.le_refl _
    · rename_i two one
      simp [isDots, two, one] at h

/-! ## Behind a service -/

section Behind
variable {x ws : List Char} {tail : List (List Char)}

/-- What is below a service has no dots in it, and there is nothing between. -/
theorem of_isBelow_written {scheme : String} (blank : ∀ c ∈ ws, c.toNat ≤ 0x20)
    (segments : ∀ s ∈ tail, ∀ c ∈ s, separates c = false) (some : tail ≠ [])
    (below : Place.IsBelow
      ⟨scheme, (split (x ++ ws ++ written tail)).1, resolve [] (split (x ++ ws ++ written tail)).2⟩
      ⟨scheme, (split x).1, resolve [] (split x).2⟩ tail) :
    (∀ s ∈ tail, isDots s = false) ∧ ws = [] := by
  obtain ⟨-, authority, dirs, service, path⟩ := below
  change (split (x ++ ws ++ written tail)).1 = (split x).1 at authority
  change resolve [] (split (x ++ ws ++ written tail)).2 = dirs ++ tail at path
  change resolve [] (split x).2 = dirs ∨ resolve [] (split x).2 = dirs ++ [[]] at service
  have named : ∀ s ∈ tail, isDots s = false := fun s hs =>
    not_dots_of_mem_resolve (fun _ h => absurd h List.not_mem_nil) s
      (path ▸ List.mem_append_right dirs hs)
  refine ⟨named, ?_⟩
  have plain : ∀ c ∈ ws, separates c = false := fun c hc => separates_of_blank (blank c hc)
  rw [split_append_written segments] at authority path
  rw [resolve_append _ _ some, resolve_of_not_dots some named] at path
  have dirs_eq := List.append_cancel_right path
  obtain ⟨alone, after⟩ := split_append plain x
  rcases List.eq_nil_or_concat (split x).2 with none | ⟨front, b, last⟩
  · rw [alone none] at authority
    exact List.append_right_eq_self.mp authority
  · rw [List.concat_eq_append] at last
    rw [after front b last, List.foldl_append] at dirs_eq
    by_cases between : ws = []
    · exact between
    exfalso
    change enter (front.foldl enter []) (b ++ ws) = dirs at dirs_eq
    rw [enter_of_not_dots (isDots_append_blanks blank between b)] at dirs_eq
    subst dirs_eq
    rw [last, resolve_append _ _ (List.cons_ne_nil _ _)] at service
    generalize front.foldl enter [] = above at service
    rw [resolve] at service
    cases dotted : isDots b with
    | true =>
      rw [dotted, if_pos rfl] at service
      have fewer := length_enter_of_dots dotted above
      rcases service with slash | slash
      · have slash := List.append_inj_right' slash rfl
        simp [between] at slash
      · have lengths := congrArg List.length slash
        simp only [List.length_append, List.length_singleton] at lengths
        omega
    | false =>
      rw [dotted, if_neg Bool.false_ne_true, enter_of_not_dots dotted] at service
      rcases service with same | longer
      · have same := List.append_inj_right' same rfl
        simp [between] at same
      · have lengths := congrArg List.length longer
        simp only [List.length_append, List.length_singleton] at lengths
        omega

end Behind

/-! ## Stripping -/

/-- A text without tabs and line ends. -/
def unbroken (cs : List Char) : List Char := cs.filter fun c => c ≠ '\t' ∧ c ≠ '\n' ∧ c ≠ '\r'

/-- A text without the blanks at its end. -/
def trimEnd (cs : List Char) : List Char := (cs.reverse.dropWhile (·.toNat ≤ 0x20)).reverse

theorem exists_trimEnd_append (cs : List Char) :
    ∃ ws, cs = trimEnd cs ++ ws ∧ ∀ c ∈ ws, c.toNat ≤ 0x20 := by
  refine ⟨(cs.reverse.takeWhile (·.toNat ≤ 0x20)).reverse, ?_, fun c hc => ?_⟩
  · rw [trimEnd, ← List.reverse_append, List.takeWhile_append_dropWhile, List.reverse_reverse]
  · simpa using List.mem_takeWhile_imp (List.mem_reverse.mp hc)

/-- Nothing is taken away in front of a character that is no blank. -/
theorem trimEnd_append_cons {c : Char} (h : 0x20 < c.toNat) (front rest : List Char) :
    trimEnd (front ++ c :: rest) = front ++ c :: trimEnd rest := by
  have stays : (c :: front.reverse).dropWhile (·.toNat ≤ 0x20) = c :: front.reverse :=
    List.dropWhile_cons_of_neg (by simpa using h)
  simp only [trimEnd, List.reverse_append, List.reverse_cons, List.append_assoc, List.singleton_append,
    List.dropWhile_append, stays]
  split
  · rename_i all
    simp [List.isEmpty_iff.mp all]
  · simp

theorem trimEnd_eq_self {cs : List Char} (h : ∀ c ∈ cs, 0x20 < c.toNat) (front : List Char)
    (some : cs ≠ []) : trimEnd (front ++ cs) = front ++ cs := by
  obtain ⟨rest, c, rfl⟩ := (List.eq_nil_or_concat cs).resolve_left some
  rw [List.concat_eq_append] at h ⊢
  rw [← List.append_assoc, trimEnd_append_cons (h c (by simp))]
  rfl

theorem unbroken_append (cs ds : List Char) : unbroken (cs ++ ds) = unbroken cs ++ unbroken ds :=
  List.filter_append ..

theorem unbroken_eq_self {cs : List Char} (h : ∀ c ∈ cs, 0x20 < c.toNat) : unbroken cs = cs := by
  refine List.filter_eq_self.mpr fun c hc => ?_
  have visible := h c hc
  have tab : c ≠ '\t' := by rintro rfl; revert visible; decide
  have feed : c ≠ '\n' := by rintro rfl; revert visible; decide
  have turn : c ≠ '\r' := by rintro rfl; revert visible; decide
  simp [tab, feed, turn]

theorem any_endsPath_unbroken (cs : List Char) : (unbroken cs).any endsPath = cs.any endsPath := by
  rw [unbroken, List.any_filter]
  refine congrArg cs.any (funext fun c => ?_)
  by_cases h : endsPath c = true
  · rw [endsPath, Bool.or_eq_true, decide_eq_true_eq, decide_eq_true_eq] at h
    rcases h with rfl | rfl <;> rfl
  · simp [h]

theorem any_endsPath_dropWhile (cs : List Char) :
    (cs.dropWhile separates).any endsPath = cs.any endsPath := by
  induction cs with
  | nil => rfl
  | cons c cs ih =>
    by_cases h : separates c = true
    · rw [List.dropWhile_cons_of_pos h, ih, List.any_cons]
      rw [separates, Bool.or_eq_true, decide_eq_true_eq, decide_eq_true_eq] at h
      rcases h with rfl | rfl <;> rfl
    · rw [List.dropWhile_cons_of_neg h]

theorem not_endsPath_of_blank {c : Char} (h : c.toNat ≤ 0x20) : endsPath c = false := by
  have query : c ≠ '?' := by rintro rfl; revert h; decide
  have fragment : c ≠ '#' := by rintro rfl; revert h; decide
  simp [endsPath, query, fragment]

/-! ## Web addresses -/

/-- How a web address begins. -/
structure IsWebScheme (scheme : String) : Prop where
  known : webSchemes.contains scheme = true
  visible : ∀ c ∈ scheme.toList, 0x20 < c.toNat
  onward : scheme.toList.any endsPath = false
  read : ∀ rest, scheme? (scheme.toList ++ ':' :: rest) = some (scheme, rest)

theorem exists_scheme {s : String} (h : hasWebScheme s = true) :
    ∃ scheme rest, s.toList = scheme.toList ++ ':' :: '/' :: '/' :: rest ∧ IsWebScheme scheme := by
  rw [hasWebScheme, Bool.or_eq_true, String.startsWith_string_iff, String.startsWith_string_iff] at h
  have visible {s : String} (all : s.toList.all (fun c => decide (0x20 < c.toNat)) = true) :
      ∀ c ∈ s.toList, 0x20 < c.toNat := by simpa using all
  rcases h with ⟨rest, h⟩ | ⟨rest, h⟩
  · exact ⟨"https", rest, h.symm, by decide, visible (by decide), by decide, fun _ => rfl⟩
  · exact ⟨"http", rest, h.symm, by decide, visible (by decide), by decide, fun _ => rfl⟩

theorem stripped_eq {s scheme : String} {rest : List Char} (web : IsWebScheme scheme)
    (h : s.toList = scheme.toList ++ ':' :: '/' :: '/' :: rest) :
    stripped s = scheme.toList ++ ':' :: '/' :: '/' :: unbroken (trimEnd rest) := by
  have front : s.toList.dropWhile (·.toNat ≤ 0x20) = s.toList := by
    rw [h]
    cases hs : scheme.toList with
    | nil => rfl
    | cons c cs =>
      have visible := web.visible c (hs ▸ List.mem_cons_self ..)
      exact List.dropWhile_cons_of_neg (by simpa using visible)
  have inner : stripped s = unbroken (trimEnd (s.toList.dropWhile (·.toNat ≤ 0x20))) := rfl
  have slash : scheme.toList ++ ':' :: '/' :: '/' :: rest =
      (scheme.toList ++ [':', '/']) ++ '/' :: rest := by simp
  rw [inner, front, h, slash, trimEnd_append_cons (by decide), unbroken_append, unbroken_append,
    unbroken_eq_self web.visible, List.append_assoc]
  rfl

theorem place?_eq {s scheme : String} {rest : List Char} (web : IsWebScheme scheme)
    (h : s.toList = scheme.toList ++ ':' :: '/' :: '/' :: rest) :
    place? s = some (readText scheme ((unbroken (trimEnd rest)).dropWhile separates)) := by
  rw [place?, stripped_eq web h, web.read]
  exact if_pos web.known

/-- A valid address has something behind its slashes. -/
theorem dropWhile_separates_ne_nil {s scheme : String} {rest : List Char} (web : IsWebScheme scheme)
    (h : s.toList = scheme.toList ++ ':' :: '/' :: '/' :: rest) (valid : isValid s = true) :
    (unbroken (trimEnd rest)).dropWhile separates ≠ [] := by
  intro none
  have invalid : isValid s = false := by
    rw [isValid, stripped_eq web h, web.read]
    refine (if_pos web.known).trans ?_
    generalize slashes : List.dropWhile _ ('/' :: '/' :: unbroken (trimEnd rest)) = behind
    obtain rfl : behind = [] := slashes.symm.trans none
    rfl
  rw [invalid] at valid
  cases valid

/-- Whether what is written behind an address belongs to its path: it has no query and no fragment,
and no blank at its end. -/
def isOpen (s : String) : Bool :=
  !s.toList.any endsPath && stripped s = unbroken s.toList

/-- A valid web address and the address that a text behind it makes. -/
theorem exists_parts {s : String} (valid : isValid s = true) (web : hasWebScheme s = true) :
    ∃ scheme x ws, place? s = some (readText scheme x) ∧
      (∀ c ∈ ws, c.toNat ≤ 0x20) ∧ (isOpen s = true ↔ x.any endsPath = false ∧ ws = []) ∧
      ∀ y : String, y.toList ≠ [] → (∀ c ∈ y.toList, 0x20 < c.toNat) →
        place? (s ++ y) = some (readText scheme (x ++ ws ++ y.toList)) := by
  obtain ⟨scheme, rest, h, web⟩ := exists_scheme web
  obtain ⟨bs, parts, blank⟩ := exists_trimEnd_append rest
  have behind := dropWhile_separates_ne_nil web h valid
  have whole : unbroken rest = unbroken (trimEnd rest) ++ unbroken bs := by
    rw [← unbroken_append, ← parts]
  refine ⟨scheme, _, unbroken bs, place?_eq web h, fun c hc => blank c (List.mem_filter.mp hc).1, ?_,
    fun y some visible => ?_⟩
  · have ends : s.toList.any endsPath =
        ((unbroken (trimEnd rest)).dropWhile separates).any endsPath := by
      have ignored : bs.any endsPath = false :=
        List.any_eq_false.mpr fun c hc => by simp [not_endsPath_of_blank (blank c hc)]
      have whole := congrArg (List.any · endsPath) parts
      simp only [List.any_append, ignored, Bool.or_false] at whole
      rw [any_endsPath_dropWhile, any_endsPath_unbroken, h, List.any_append, web.onward, ← whole]
      rfl
    have stripped_iff : stripped s = unbroken s.toList ↔ unbroken bs = [] := by
      have slashes (cs : List Char) : unbroken (':' :: '/' :: '/' :: cs) =
        ':' :: '/' :: '/' :: unbroken cs := rfl
      rw [stripped_eq web h, h, unbroken_append, unbroken_eq_self web.visible, slashes, whole]
      simp
    rw [isOpen, Bool.and_eq_true, Bool.not_eq_true', decide_eq_true_eq, ends, stripped_iff]
  · have joined : (s ++ y).toList = scheme.toList ++ ':' :: '/' :: '/' :: (rest ++ y.toList) := by
      rw [String.toList_append, h]
      simp
    have whole' : unbroken (rest ++ y.toList) =
        unbroken (trimEnd rest) ++ unbroken bs ++ y.toList := by
      rw [unbroken_append, unbroken_eq_self visible, whole]
    rw [place?_eq web joined, trimEnd_eq_self visible rest some, whole', List.append_assoc,
      List.dropWhile_append, List.append_assoc]
    simp [behind]

/-! ## Behind an address -/

theorem takeWhile_append_of_onward {x : List Char} (h : x.any endsPath = false) (y : List Char) :
    (x ++ y).takeWhile (!endsPath ·) = x ++ y.takeWhile (!endsPath ·) :=
  List.takeWhile_append_of_pos fun c hc => by simpa using List.any_eq_false.mp h c hc

theorem takeWhile_append_of_ended {x : List Char} (h : x.any endsPath = true) (y : List Char) :
    (x ++ y).takeWhile (!endsPath ·) = x.takeWhile (!endsPath ·) := by
  induction x with
  | nil => cases h
  | cons c x ih =>
    cases hc : endsPath c with
    | true => simp [hc]
    | false =>
      rw [List.any_cons, hc, Bool.false_or] at h
      simp [hc, ih h]

/-- A text to be written behind an address: two segments at least, and perhaps a query. -/
structure IsTail (text : String) (segments : List (List Char)) : Prop where
  parts : ∃ query, text.toList = written segments ++ query ∧ (query = [] ∨ query.head? = some '?')
  visible : ∀ c ∈ text.toList, 0x20 < c.toNat
  plain : ∀ s ∈ segments, ∀ c ∈ s, separates c = false ∧ endsPath c = false
  several : 2 ≤ segments.length

namespace IsTail
variable {text : String} {segments : List (List Char)}

theorem ne_nil (h : IsTail text segments) : segments ≠ [] := by
  rintro rfl
  exact absurd h.several (by decide)

theorem toList_ne_nil (h : IsTail text segments) : text.toList ≠ [] := by
  obtain ⟨query, parts, -⟩ := h.parts
  obtain ⟨s, rest, rfl⟩ := List.exists_cons_of_ne_nil h.ne_nil
  rw [parts]
  exact List.cons_ne_nil _ _

/-- The path of an address that goes on in a tail takes in its segments and stops at its query. -/
theorem takeWhile_append (h : IsTail text segments) {x : List Char} (open' : x.any endsPath = false) :
    (x ++ text.toList).takeWhile (!endsPath ·) = x ++ written segments := by
  obtain ⟨query, parts, begins⟩ := h.parts
  have plain : (written segments).any endsPath = false := by
    refine List.any_eq_false.mpr fun c hc => ?_
    obtain ⟨s, hs, hc⟩ := List.mem_flatMap.mp hc
    rcases List.mem_cons.mp hc with rfl | hc
    · decide
    · simp [(h.plain s hs c hc).2]
  rw [parts, takeWhile_append_of_onward open', takeWhile_append_of_onward plain]
  rcases begins with rfl | begins
  · simp
  · cases query with
    | nil => cases begins
    | cons c query =>
      obtain rfl : c = '?' := Option.some.inj begins
      have stop : ('?' :: query).takeWhile (!endsPath ·) = [] := rfl
      rw [stop, List.append_nil]

end IsTail

section Tails
variable {s : String} (valid : isValid s = true) (web : hasWebScheme s = true)
include valid web

/-- Behind an open address the segments of a tail are the end of the path. -/
theorem exists_place_behind (opened : isOpen s = true) :
    ∃ scheme authority dirs, (∃ path, place? s = some ⟨scheme, authority, path⟩ ∧
        (path = dirs ∨ path = dirs ++ [[]])) ∧
      ∀ text segments, IsTail text segments → (∀ t ∈ segments, isDots t = false) →
        place? (s ++ text) = some ⟨scheme, authority, dirs ++ segments⟩ := by
  obtain ⟨scheme, x, ws, place, -, opened_iff, behind⟩ := exists_parts valid web
  obtain ⟨onward, rfl⟩ := opened_iff.mp opened
  have all : x.takeWhile (!endsPath ·) = x := by
    simpa using takeWhile_append_of_onward onward []
  refine ⟨scheme, (split x).1, (split x).2.foldl enter [], ⟨_, place.trans ?_, resolve_eq_or _ _⟩,
    fun text segments h named => ?_⟩
  · rw [readText, all]
  · rw [behind text h.toList_ne_nil h.visible, List.append_nil, readText, h.takeWhile_append onward,
      split_append_written fun s hs c hc => (h.plain s hs c hc).1]
    change some (⟨scheme, _, resolve [] (_ ++ segments)⟩ : Place) = _
    rw [resolve_append _ _ h.ne_nil, resolve_of_not_dots h.ne_nil named]

/-- Only behind an open address, and without dots, is a tail the end of the path. -/
theorem of_isBelow {text : String} {segments : List (List Char)} (h : IsTail text segments)
    {service p : Place} (hs : place? s = some service) (hp : place? (s ++ text) = some p)
    (below : p.IsBelow service segments) :
    isOpen s = true ∧ ∀ t ∈ segments, isDots t = false := by
  obtain ⟨scheme, x, ws, place, blank, opened_iff, behind⟩ := exists_parts valid web
  obtain rfl := Option.some.inj (hs.symm.trans place)
  obtain rfl := Option.some.inj
    (hp.symm.trans (behind text h.toList_ne_nil h.visible))
  cases onward : x.any endsPath with
  | true =>
    -- the tail is in the query, and the path that of the service
    exfalso
    obtain ⟨-, -, dirs, service, path⟩ := below
    have same : readText scheme (x ++ ws ++ text.toList) = readText scheme x := by
      rw [List.append_assoc, readText, takeWhile_append_of_ended onward, ← readText]
    have several := h.several
    rw [same] at path
    rw [path] at service
    rcases service with none | slash
    · rw [List.append_right_eq_self.mp none] at several
      exact absurd several (by decide)
    · rw [List.append_cancel_left slash] at several
      exact absurd several (by decide)
  | false =>
    have all : x.takeWhile (!endsPath ·) = x := by
      simpa using takeWhile_append_of_onward onward []
    have onward' : (x ++ ws).any endsPath = false := by
      rw [List.any_append, onward, Bool.false_or]
      exact List.any_eq_false.mpr fun c hc => by simp [not_endsPath_of_blank (blank c hc)]
    rw [readText, readText, all, h.takeWhile_append onward'] at below
    obtain ⟨named, rfl⟩ := of_isBelow_written blank
      (fun s hs c hc => (h.plain s hs c hc).1) h.ne_nil below
    exact ⟨opened_iff.mpr ⟨onward, rfl⟩, named⟩

end Tails
end Depot.Url
