import EncFS.Args.ProcessArgs

/-!
# The labels the `switch` sees

`getopt_long` returns only `'?'`, a character of the option string that names an option, or the
`val` of an entry of the long options (`returnable`): its option string does not start with `:`,
so a missing argument is reported as `'?'` as well. This holds of every element the scan reads
(`optionElement_returns`), and so of the whole scan (`getoptScan_returns`).

For `processArgs`, every letter of `"HsSfvdmEi:o:t:c:u"` and every `val` of `long_options` has a
`case` of its own. So every value its loop receives selects a named `case`: the `default` of the
`switch`, which prints `getopt error`, and its `case ':'` never run (`processArgs_switch_named`).
-/

namespace EncFS

section Scan

variable {optstring : List Char} {longopts : List LongOption}

/-- Whether `getopt_long` can return `v` for the option string `optstring` and the table
`longopts`: `'?'`, a character that names an option, or the `val` of an entry. -/
def returnable (optstring : List Char) (longopts : List LongOption) : OptVal → Bool
  | .char c => c = '?' || (shortOption optstring c).isSome || longopts.any (·.val = .char c)
  | .long n => longopts.any (·.val = .long n)

/-- What a part of the scan returns, and what it leaves pending, `getopt_long` can return. -/
def Returns (optstring : List Char) (longopts : List LongOption)
    (x : List GetoptResult × Option OptVal) : Prop :=
  (∀ r ∈ x.1, returnable optstring longopts r.res) ∧ ∀ v ∈ x.2, returnable optstring longopts v

lemma returnable_error : returnable optstring longopts GetoptResult.error.res := by
  simp [returnable, GetoptResult.error]

lemma returnable_short {c : Char} {b : Bool} (h : shortOption optstring c = some b) :
    returnable optstring longopts (.char c) := by
  simp [returnable, h]

lemma returnable_long {o : LongOption} (h : o ∈ longopts) : returnable optstring longopts o.val := by
  cases hv : o.val <;> simp only [returnable, Bool.or_eq_true, List.any_eq_true, decide_eq_true_eq]
  · exact .inr ⟨o, h, hv⟩
  · exact ⟨o, h, hv⟩

/-- A letter names an option only if it stands in the option string and is not `:`. -/
lemma shortOption_some {c : Char} {b : Bool} (h : shortOption optstring c = some b) :
    c ∈ optstring ∧ c ≠ ':' := by
  unfold shortOption at h
  split_ifs at h with hc
  split at h
  · cases h
  · rename_i x rest hx
    have hxc := List.head_dropWhile_not (fun y => decide (y ≠ c)) optstring
      (by rw [hx]; exact List.cons_ne_nil _ _)
    simp only [hx, List.head_cons, decide_eq_false_iff_not, not_not] at hxc
    subst hxc
    exact ⟨List.dropWhile_subset _ (by rw [hx]; exact List.mem_cons_self _ _), fun h => hc (.inl h)⟩

lemma longLookup_mem {name : List Char} {o : LongOption} (h : longLookup longopts name = some o) :
    o ∈ longopts := by
  unfold longLookup at h
  split at h
  · cases h; exact List.mem_of_find?_eq_some ‹_›
  · split at h
    · cases h
    · rename_i hf
      split_ifs at h
      cases h
      exact List.mem_of_mem_filter (by rw [hf]; exact List.mem_cons_self _ _)

lemma shortCluster_returns (cs : List Char) :
    Returns optstring longopts (shortCluster optstring cs) := by
  induction cs with
  | nil => simp [Returns, shortCluster]
  | cons c cs ih =>
    obtain ⟨ih₁, ih₂⟩ := ih
    cases h : shortOption optstring c with
    | none => simpa [Returns, shortCluster, h, returnable_error] using ⟨ih₁, ih₂⟩
    | some b =>
      cases b
      · simpa [Returns, shortCluster, h, returnable_short h] using ⟨ih₁, ih₂⟩
      · by_cases hcs : cs = [] <;> simp [Returns, shortCluster, h, hcs, returnable_short h]

lemma longOptionResult_returns (body : List Char) :
    Returns optstring longopts (longOptionResult longopts body) := by
  unfold longOptionResult
  split
  · simp [Returns, returnable_error]
  · rename_i o _ _ ho _
    split_ifs <;> simp [Returns, returnable_error, returnable_long (longLookup_mem ho)]
  · rename_i o ho _
    split_ifs <;> simp [Returns, returnable_long (longLookup_mem ho)]

lemma optionElement_returns (a : String) :
    Returns optstring longopts (optionElement optstring longopts a) := by
  unfold optionElement
  split
  · exact longOptionResult_returns _
  · exact shortCluster_returns _
  · simp [Returns]

/-- Whatever the elements, the scan returns only values `getopt_long` can return. -/
lemma getoptScan_returns {p : Option OptVal} (hp : ∀ v ∈ p, returnable optstring longopts v)
    (l ops : List String) :
    ∀ r ∈ (getoptScan optstring longopts p l ops).1, returnable optstring longopts r.res := by
  induction l generalizing p ops with
  | nil => cases p <;> simp [getoptScan, returnable_error]
  | cons a l ih =>
    cases p with
    | some v =>
      simpa [getoptScan] using ⟨hp v rfl, ih (p := none) (by simp) ops⟩
    | none =>
      by_cases h₁ : a = "--"
      · simp [h₁, getoptScan_dashdash]
      · cases h₂ : isNonOption a
        · rw [getoptScan_option _ _ h₁ h₂]
          obtain ⟨he₁, he₂⟩ := @optionElement_returns optstring longopts a
          simpa [or_imp, forall_and] using ⟨he₁, ih he₂ ops⟩
        · rw [getoptScan_nonOption _ _ h₂]
          exact ih (by simp) _

end Scan

/-- Every letter of `processArgs`'s option string that names an option has a `case`. -/
lemma shortOptions_named :
    ∀ c ∈ shortOptions, c ≠ ':' →
      SwitchCase.ofRes (.char c) ≠ .default ∧ SwitchCase.ofRes (.char c) ≠ .missingParameter := by
  decide

/-- Every entry of `long_options` has a `case`. -/
lemma longOptions_named :
    ∀ o ∈ longOptions, SwitchCase.ofRes o.val ≠ .default ∧ SwitchCase.ofRes o.val ≠ .missingParameter := by
  decide

lemma switchCase_of_returnable {v : OptVal} (h : returnable shortOptions longOptions v) :
    SwitchCase.ofRes v ≠ .default ∧ SwitchCase.ofRes v ≠ .missingParameter := by
  have hlong : (longOptions.any (·.val = v)) = true →
      SwitchCase.ofRes v ≠ .default ∧ SwitchCase.ofRes v ≠ .missingParameter := fun h' => by
    obtain ⟨o, ho, hv⟩ := List.any_eq_true.1 h'
    exact (of_decide_eq_true hv) ▸ longOptions_named o ho
  cases v with
  | char c =>
    simp only [returnable, Bool.or_eq_true, decide_eq_true_eq] at h
    rcases h with (rfl | h) | h
    · decide
    · obtain ⟨b, hb⟩ := Option.isSome_iff_exists.1 h
      exact shortOptions_named c (shortOption_some hb).1 (shortOption_some hb).2
    · exact hlong h
  | long n => exact hlong h

/-- Every value `getopt_long` returns to `processArgs` selects a named `case` of its `switch`,
whatever the command line: the `default`, which prints `getopt error`, and `case ':'` are dead
code. -/
theorem processArgs_switch_named (args : List String) :
    ∀ r ∈ (getoptLong shortOptions longOptions args).1,
      SwitchCase.ofRes r.res ≠ .default ∧ SwitchCase.ofRes r.res ≠ .missingParameter :=
  fun r hr => switchCase_of_returnable (getoptScan_returns (by simp) args [] r hr)

/-- `-f` selects a named `case`. -/
theorem processArgs_switch_named_foreground :
    ⟨.char 'f', none⟩ ∈ (getoptLong shortOptions longOptions ["-f"]).1 ∧
      SwitchCase.ofRes (.char 'f') ≠ .default ∧
      SwitchCase.ofRes (.char 'f') ≠ .missingParameter :=
  ⟨by decide, processArgs_switch_named ["-f"] ⟨.char 'f', none⟩ (by decide)⟩

end EncFS
