import EncFS.Args.Properties

/-!
# Short and long spellings

Nine options of `processArgs` have both a letter in `"HsSfvdmEi:o:t:c:u"` and a name in
`long_options`. For eight of them the two spellings give `getopt_long` the same element: the
same returns, and the same option left waiting for the next element as its argument. Wherever
the scan reads an option element, one spelling can then replace the other without changing what
`processArgs` does. The ninth, `--unmount`, is declared with a required argument while `u` in the
option string takes none, so its two spellings scan differently.
-/

namespace EncFS

section Scan

variable (optstring : List Char) (longopts : List LongOption)

/-- Where the scan stands after `args`, from `pending`: the option still waiting for its argument,
or `none` once a `--` has ended the options. -/
def pendingAfter : Option OptVal → List String → Option (Option OptVal)
  | p, [] => some p
  | some _, _ :: rest => pendingAfter none rest
  | none, a :: rest =>
    if a = "--" then none
    else if isNonOption a then pendingAfter none rest
    else pendingAfter (optionElement optstring longopts a).2 rest

variable {optstring longopts}

/-- Two option elements with the same returns can replace each other wherever the scan reads an
option element. -/
lemma getoptScan_congr {a b : String} (ha : a ≠ "--") (hb : b ≠ "--")
    (ha' : isNonOption a = false) (hb' : isNonOption b = false)
    (hab : optionElement optstring longopts a = optionElement optstring longopts b)
    (p : Option OptVal) (pre post ops : List String)
    (hp : pendingAfter optstring longopts p pre = some none) :
    getoptScan optstring longopts p (pre ++ a :: post) ops =
      getoptScan optstring longopts p (pre ++ b :: post) ops := by
  induction pre generalizing p ops with
  | nil =>
    simp only [pendingAfter, Option.some.injEq] at hp
    subst hp
    rw [List.nil_append, List.nil_append, getoptScan_option _ _ ha ha',
      getoptScan_option _ _ hb hb', hab]
  | cons x pre ih =>
    cases p with
    | some v =>
      simp only [pendingAfter] at hp
      simp only [List.cons_append, getoptScan, List.append_eq, ih none ops hp]
    | none =>
      simp only [pendingAfter] at hp
      split_ifs at hp with h₁ h₂
      · simp only [List.cons_append, getoptScan_nonOption _ _ h₂, ih none _ hp]
      · simp only [List.cons_append, getoptScan_option _ _ h₁ (by simpa using h₂), ih _ ops hp]

end Scan

/-- The options with both spellings: each letter of the option string that a long option stands
for, with that option's name. -/
def dualOptions : List (Char × String) :=
  longOptions.filterMap fun o =>
    match o.val with
    | .char c => if (shortOption shortOptions c).isSome then some (c, o.name) else none
    | .long _ => none

example : dualOptions = [('d', "fuse-debug"), ('H', "fuse-help"), ('i', "idle"),
    ('m', "ondemand"), ('S', "stdinpass"), ('t', "syslogtag"), ('v', "verbose"), ('c', "config"),
    ('u', "unmount")] := by decide

/-- Both spellings of each option but `--unmount` are option elements with the same returns. -/
lemma dualOptions_optionElement :
    ∀ x ∈ dualOptions, x.2 ≠ "unmount" →
      "--" ++ x.2 ≠ "--" ∧ isNonOption ("--" ++ x.2) = false ∧
      String.mk ['-', x.1] ≠ "--" ∧ isNonOption (String.mk ['-', x.1]) = false ∧
      optionElement shortOptions longOptions ("--" ++ x.2) =
        optionElement shortOptions longOptions (String.mk ['-', x.1]) := by
  decide

/-- `--unmount` takes the mount point as its own argument and leaves no operand, while `-u` leaves
it as the one operand an unmount needs. -/
theorem processArgs_unmount_long_differs :
    processArgs Env.user "encfs" ["--unmount", "/mnt"] EncFSArgs.blank =
        .error (.reject "Expecting one argument, aborting.") ∧
      (processArgs Env.user "encfs" ["-u", "/mnt"] EncFSArgs.blank).map
        (·.opts.unmountPoint) = .ok "/mnt" := ⟨rfl, rfl⟩

/-- Spelling one of the options other than `-u` in full, at a point where the scan reads an
option, changes nothing that `processArgs` does. -/
theorem processArgs_long_spelling {c : Char} {name : String} (hd : (c, name) ∈ dualOptions)
    (hu : name ≠ "unmount") (env : Env) (prog : String) (pre post : List String)
    (out : EncFSArgs) (hp : pendingAfter shortOptions longOptions none pre = some none) :
    processArgs env prog (pre ++ ("--" ++ name) :: post) out =
      processArgs env prog (pre ++ String.mk ['-', c] :: post) out := by
  obtain ⟨h₁, h₂, h₃, h₄, h₅⟩ := dualOptions_optionElement _ hd hu
  simp only [processArgs, getoptLong, getoptScan_congr h₁ h₃ h₂ h₄ h₅ none pre post [] hp]

/-- `--fuse-debug` in front of a mount of `/raw` at `/mnt`. -/
theorem processArgs_long_spelling_fuse_debug :
    ('d', "fuse-debug") ∈ dualOptions ∧ "fuse-debug" ≠ "unmount" ∧
      pendingAfter shortOptions longOptions none [] = some none ∧
      processArgs Env.user "encfs" ([] ++ ("--" ++ "fuse-debug") :: ["/raw", "/mnt"])
          EncFSArgs.blank =
        processArgs Env.user "encfs" ([] ++ String.mk ['-', 'd'] :: ["/raw", "/mnt"])
          EncFSArgs.blank :=
  ⟨by decide, by decide, rfl,
    processArgs_long_spelling (by decide) (by decide) Env.user "encfs" [] ["/raw", "/mnt"]
      EncFSArgs.blank rfl⟩

end EncFS
