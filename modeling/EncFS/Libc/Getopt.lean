import Mathlib.Data.List.Basic

/-!
# `getopt_long`

GNU `getopt_long` as `processArgs` calls it: in the default, permuting, order, with a string of
short options and a `struct option` table, `opterr` left on and `long_only` off. The option string
of `processArgs` starts with neither `+` nor `-`, so glibc permutes exactly when the environment
has no `POSIXLY_CORRECT`; with it set, glibc stops at the first non-option (`REQUIRE_ORDER`). The
model, and every result about `processArgs`, assumes it is unset. The scan is a
function from the elements after `argv[0]` to the values `getopt_long` returns, in order, and to
the operands it leaves at `argv[optind ..]` once it has returned `-1`: the non-options met before
a `--`, in their order, followed by everything after the `--`.

A `String` stands for a C string: each `Char` is one `char` of the argument.
-/

namespace EncFS

/-- The `int` that `getopt_long` returns for an option: a character, or one of the values above
the character range that a program gives to options that have no short form. -/
inductive OptVal
  | char (c : Char)
  | long (n : Nat)
  deriving DecidableEq, Repr

/-- An entry of a `struct option` table. `has_arg` is `no_argument` or `required_argument`,
and `flag` is null. -/
structure LongOption where
  name : String
  hasArg : Bool
  val : OptVal
  deriving DecidableEq, Repr

/-- One return of `getopt_long`: `res`, and `optarg` when the option took an argument. -/
structure GetoptResult where
  res : OptVal
  optarg : Option String
  deriving DecidableEq, Repr

/-- The `'?'` return, for an unknown or ambiguous option or a missing argument. -/
def GetoptResult.error : GetoptResult := ⟨.char '?', none⟩

/-- `NONOPTION_P`: an element that does not start with `-`, or is `-` alone. -/
def isNonOption (a : String) : Bool :=
  match a.toList with
  | '-' :: _ :: _ => false
  | _ => true

/-- `strchr (optstring, c)` and the test after it: `none` when `c` names no option (`:` and `;`
never do), otherwise whether a `:` follows it, that is whether it requires an argument. -/
def shortOption (optstring : List Char) (c : Char) : Option Bool :=
  if c = ':' ∨ c = ';' then none
  else
    match optstring.dropWhile (· ≠ c) with
    | [] => none
    | _ :: rest => some (rest.head? = some ':')

/-- The options of one `-xyz` element, left to right. An option that requires an argument ends
the element: it takes the rest of the element, or, when nothing is left, the next element of
`argv`, and is then returned as pending. -/
def shortCluster (optstring : List Char) : List Char → List GetoptResult × Option OptVal
  | [] => ([], none)
  | c :: cs =>
    match shortOption optstring c with
    | none => (.error :: (shortCluster optstring cs).1, (shortCluster optstring cs).2)
    | some false => (⟨.char c, none⟩ :: (shortCluster optstring cs).1, (shortCluster optstring cs).2)
    | some true => if cs = [] then ([], some (.char c)) else ([⟨.char c, some ⟨cs⟩⟩], none)

/-- The lookup of `process_long_option`: the first entry with exactly this name, else the first
entry whose name the given one abbreviates, unless a later such entry differs from it in
`has_arg` or `val` (the abbreviation is then ambiguous). -/
def longLookup (longopts : List LongOption) (name : List Char) : Option LongOption :=
  match longopts.find? (·.name.toList = name) with
  | some o => some o
  | none =>
    match longopts.filter (name.isPrefixOf ·.name.toList) with
    | [] => none
    | o :: others =>
      if others.all (fun p => p.hasArg = o.hasArg ∧ p.val = o.val) then some o else none

/-- A `--name` or `--name=value` element, given as what follows the `--`. An option that requires
an argument and has no `=value` takes the next element of `argv`, and is returned as pending. -/
def longOptionResult (longopts : List LongOption) (body : List Char) :
    List GetoptResult × Option OptVal :=
  match longLookup longopts (body.takeWhile (· ≠ '=')), body.dropWhile (· ≠ '=') with
  | none, _ => ([.error], none)
  | some o, _ :: value => ([if o.hasArg then ⟨o.val, some ⟨value⟩⟩ else .error], none)
  | some o, [] => if o.hasArg then ([], some o.val) else ([⟨o.val, none⟩], none)

/-- The returns for one option element, long or short. -/
def optionElement (optstring : List Char) (longopts : List LongOption) (a : String) :
    List GetoptResult × Option OptVal :=
  match a.toList with
  | '-' :: '-' :: body => longOptionResult longopts body
  | _ :: cs => shortCluster optstring cs
  | [] => ([], none)

/-- The scan of `getopt_long` from one element on. `pending` is the option of the previous
element that still requires its argument, which this element then is; `operands` holds the
non-options skipped so far. -/
def getoptScan (optstring : List Char) (longopts : List LongOption) :
    Option OptVal → List String → List String → List GetoptResult × List String
  | none, [], operands => ([], operands)
  | some _, [], operands => ([.error], operands)
  | some v, a :: rest, operands =>
    let r := getoptScan optstring longopts none rest operands
    (⟨v, some a⟩ :: r.1, r.2)
  | none, a :: rest, operands =>
    if a = "--" then ([], operands ++ rest)
    else if isNonOption a then getoptScan optstring longopts none rest (operands ++ [a])
    else
      let r := getoptScan optstring longopts (optionElement optstring longopts a).2 rest operands
      ((optionElement optstring longopts a).1 ++ r.1, r.2)

/-- The whole scan of `getopt_long`, called until it returns `-1` on the elements after
`argv[0]`: the values it returns, in order, and the operands at `argv[optind ..]` afterwards. -/
def getoptLong (optstring : List Char) (longopts : List LongOption) (args : List String) :
    List GetoptResult × List String :=
  getoptScan optstring longopts none args []

section

variable (optstring : List Char) (longopts : List LongOption)

lemma getoptScan_dashdash (rest operands : List String) :
    getoptScan optstring longopts none ("--" :: rest) operands = ([], operands ++ rest) := by
  simp [getoptScan]

lemma getoptScan_nonOption {a : String} (h : isNonOption a = true) (rest operands : List String) :
    getoptScan optstring longopts none (a :: rest) operands =
      getoptScan optstring longopts none rest (operands ++ [a]) := by
  have : a ≠ "--" := by rintro rfl; simp [isNonOption] at h
  simp [getoptScan, this, h]

/-- An option element contributes its returns, and the scan goes on with what it left pending. -/
lemma getoptScan_option {a : String} (h₁ : a ≠ "--") (h₂ : isNonOption a = false)
    (rest operands : List String) :
    getoptScan optstring longopts none (a :: rest) operands =
      ((optionElement optstring longopts a).1 ++
          (getoptScan optstring longopts (optionElement optstring longopts a).2 rest operands).1,
        (getoptScan optstring longopts (optionElement optstring longopts a).2 rest operands).2) := by
  simp [getoptScan, h₁, h₂]

end

end EncFS
