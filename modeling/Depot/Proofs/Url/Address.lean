import Mathlib.Algebra.BigOperators.Group.List.Defs
import Depot.Http.Call
import Depot.Proofs.Text.Percent
import Depot.Url.Host
/-!
# Reading addresses back

What an address asks for below a root, for a reader that knows the separators only: the path ends at
the first question mark and is cut at the slashes, the parameters are cut at the ampersands and each
of them at its first equals sign, and every piece is decoded once.
-/
namespace Depot.Url

open Text.Percent (encode encodeByte isPlain)

/-- What an address asks for: the names on its path, and the parameters. -/
structure Address where
  names : List String
  params : List (String × String)

/-- The text that an encoded text stands for, if its bytes are those of a text. -/
def decode? (cs : List Char) : Option String :=
  String.fromUTF8? (percentDecoded cs).toByteArray

/-- What is in front of the first separator, and what is behind it. -/
def cut (sep : Char) : List Char → List Char × Option (List Char)
  | [] => ([], none)
  | c :: rest =>
    if c = sep then ([], some rest)
    else
      let (front, back) := cut sep rest
      (c :: front, back)

def readParam? (cs : List Char) : Option (String × String) := do
  let (name, value) := cut '=' cs
  return (← decode? name, ← decode? (← value))

def readParams? : Option (List Char) → Option (List (String × String))
  | none => some []
  | some cs => (cs.splitOn '&').mapM readParam?

/-- The names on a path, which begins with a slash. -/
def readNames? (path : List Char) : Option (List String) :=
  match path.splitOn '/' with
  | [] :: names => names.mapM decode?
  | _ => none

/-- What an address below a root asks for. -/
def Address.read? (root url : String) : Option Address := do
  let (path, params) := cut '?' (← root.toList.isPrefixOf? url.toList)
  return ⟨← readNames? path, ← readParams? params⟩

/-! ## Pieces -/

theorem percentDecoded_encode (s : String) :
    percentDecoded (encode s).toList = s.toList.flatMap String.utf8EncodeChar := by
  have digits : ∀ n < 16, Text.hexValue? (Text.Percent.hexDigit n) = some n := by decide
  refine Text.Percent.read_encode rfl (fun b rest => ?_) (fun c rest plain => ?_) s
  · have high : b.toNat / 16 < 16 := by have := b.toNat_lt; omega
    have low : b.toNat % 16 < 16 := Nat.mod_lt _ (by decide)
    have whole : 16 * (b.toNat / 16) + b.toNat % 16 = b.toNat := Nat.div_add_mod ..
    simp only [encodeByte, List.cons_append, List.nil_append, percentDecoded, digits _ high,
      digits _ low, whole]
    rw [Nat.toUInt8, UInt8.ofNat_toNat]
  · rw [percentDecoded]
    exact fun a b rest' h => absurd h (Text.Percent.ne_percent_of_isPlain plain)

theorem decode?_encode (s : String) : decode? (encode s).toList = some s := by
  have bytes : (percentDecoded (encode s).toList).toByteArray = s.toByteArray := by
    rw [percentDecoded_encode]
    exact String.utf8Encode_toList
  rw [decode?, bytes]
  exact dif_pos s.isValidUTF8

/-- What is written piece by piece is read back piece by piece. -/
theorem mapM_map {α β : Type} {write : α → β} {read : β → Option α}
    (h : ∀ a, read (write a) = some a) (as : List α) : (as.map write).mapM read = some as := by
  induction as with
  | nil => rfl
  | cons a as ih => rw [List.map_cons, List.mapM_cons, h, ih]; rfl

section Separators
variable {sep : Char} {front : List Char}

theorem cut_append (h : sep ∉ front) (rest : List Char) :
    cut sep (front ++ sep :: rest) = (front, some rest) := by
  induction front with
  | nil => exact if_pos rfl
  | cons c front ih =>
    obtain ⟨other, h⟩ := not_or.mp fun either => h (List.mem_cons.mpr either)
    rw [List.cons_append, cut, if_neg (Ne.symm other), ih h]

theorem cut_eq_self (h : sep ∉ front) : cut sep front = (front, none) := by
  induction front with
  | nil => rfl
  | cons c front ih =>
    obtain ⟨other, h⟩ := not_or.mp fun either => h (List.mem_cons.mpr either)
    rw [cut, if_neg (Ne.symm other), ih h]

end Separators

/-! ## Paths and parameters -/

theorem readNames?_written (names : List String) :
    readNames? ((names.map fun n => (encode n).toList).flatMap ('/' :: ·)) = some names := by
  have joined (segments : List (List Char)) :
      segments.flatMap ('/' :: ·) = ['/'].intercalate ([] :: segments) := by
    cases segments with
    | nil => rfl
    | cons s rest =>
      induction rest generalizing s with
      | nil => simp
      | cons next rest ih =>
        rw [List.flatMap_cons, ih]
        simp [List.intercalate_cons_cons]
  have unbroken : ∀ segment ∈ [] :: names.map fun n => (encode n).toList, '/' ∉ segment := by
    intro segment hs
    rcases List.mem_cons.mp hs with rfl | hs
    · exact List.not_mem_nil
    · obtain ⟨n, -, rfl⟩ := List.mem_map.mp hs
      exact Text.Percent.notMem_encode (by decide) (by decide) n
  rw [readNames?, joined, List.splitOn_intercalate '/' unbroken (List.cons_ne_nil _ _)]
  exact mapM_map decode?_encode names

theorem readParam?_encodePair (name value : String) :
    readParam? (Params.encodePair name value).toList = some (name, value) := by
  have parts : (Params.encodePair name value).toList =
      (encode name).toList ++ '=' :: (encode value).toList := by
    simp [Params.encodePair]
  have plain := Text.Percent.notMem_encode (c := '=') (by decide) (by decide) name
  simp only [readParam?, parts, cut_append plain, decode?_encode, Option.bind_eq_bind,
    Option.bind_some, Option.pure_def]

end Depot.Url

namespace Depot

open Text.Percent (encode)
open Url

namespace Params

/-- The parameters that have a value, with their values as texts. -/
def defined (params : Params) : List (String × String) :=
  params.filterMap fun (name, value) => value.map fun p => (name, p.toText)

theorem pairs_eq (params : Params) :
    params.pairs = params.defined.map fun p => encodePair p.1 p.2 := by
  rw [pairs, defined, List.map_filterMap]
  congr 1
  funext ⟨name, value⟩
  cases value <;> rfl

theorem ampersand_notMem_encodePair (name value : String) :
    '&' ∉ (encodePair name value).toList := by
  have apart := Text.Percent.notMem_encode (c := '&') (by decide) (by decide)
  simp [encodePair, apart]

theorem queryString_eq (params : Params) : params.queryString =
    if params.defined = [] then "" else
      "?" ++ "&".intercalate (params.defined.map fun p => encodePair p.1 p.2) := by
  rw [queryString, pairs_eq]
  cases params.defined <;> rfl

theorem cut_query (text : String) : cut '?' ("?" ++ text).toList = ([], some text.toList) := by
  rw [String.toList_append]
  rfl

theorem readParams?_intercalate {ps : List (String × String)} (some_left : ps ≠ []) :
    readParams? (some ("&".intercalate (ps.map fun p => encodePair p.1 p.2)).toList) = some ps := by
  have unbroken : ∀ piece ∈ ps.map fun p => (encodePair p.1 p.2).toList, '&' ∉ piece := by
    intro piece hp
    obtain ⟨p, -, rfl⟩ := List.mem_map.mp hp
    exact ampersand_notMem_encodePair p.1 p.2
  have pieces : ((ps.map fun p => encodePair p.1 p.2).map String.toList) =
      ps.map fun p => (encodePair p.1 p.2).toList := List.map_map ..
  have cuts := List.splitOn_intercalate '&' unbroken (by simpa using some_left)
  rw [String.toList_intercalate, pieces, readParams?]
  exact (congrArg (List.mapM readParam?) cuts).trans
    (mapM_map (fun p => readParam?_encodePair p.1 p.2) ps)

/-- The query of an address is read back as the parameters that have a value. -/
theorem readParams?_queryString (params : Params) :
    readParams? (cut '?' params.queryString.toList).2 = some params.defined := by
  rw [queryString_eq]
  by_cases h : params.defined = []
  · rw [if_pos h, h]
    rfl
  · rw [if_neg h, cut_query]
    exact readParams?_intercalate h

/-- Parameters make the same query exactly if those with a value have the same values as texts. -/
theorem queryString_inj {params params' : Params} :
    params.queryString = params'.queryString ↔ params.defined = params'.defined := by
  constructor
  · intro same
    have read := readParams?_queryString params
    rw [same, readParams?_queryString params'] at read
    exact (Option.some.inj read).symm
  · intro same
    rw [queryString_eq, queryString_eq, same]

end Params

/-- An address that names are written into, and parameters, is read back as them. -/
theorem Url.Address.read?_eq {root url : String} {names : List String} {params : Params}
    (h : url.toList = root.toList ++ ((names.map fun n => (encode n).toList).flatMap ('/' :: ·) ++
      params.queryString.toList)) :
    Address.read? root url = some ⟨names, params.defined⟩ := by
  have path : '?' ∉ (names.map fun n => (encode n).toList).flatMap ('/' :: ·) := by
    intro hq
    obtain ⟨segment, hs, hq⟩ := List.mem_flatMap.mp hq
    obtain ⟨n, -, rfl⟩ := List.mem_map.mp hs
    have := Text.Percent.notMem_encode (c := '?') (by decide) (by decide) n
    simp [this] at hq
  have front : cut '?' ((names.map fun n => (encode n).toList).flatMap ('/' :: ·) ++
      params.queryString.toList) = ((names.map fun n => (encode n).toList).flatMap ('/' :: ·),
      (cut '?' params.queryString.toList).2) := by
    rw [Params.queryString_eq]
    split
    · rw [String.toList_empty, List.append_nil, cut_eq_self path]
      rfl
    · rw [Params.cut_query, String.toList_append]
      exact cut_append path _
  have below := List.isPrefixOf?_eq_some_iff_append_eq.mpr h.symm
  simp only [Address.read?, below, front, readNames?_written, Params.readParams?_queryString,
    Option.bind_eq_bind, Option.bind_some, Option.pure_def]

end Depot
