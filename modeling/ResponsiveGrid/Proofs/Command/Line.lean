import ResponsiveGrid.Command.Invocation
set_option autoImplicit false

/-!
# Command: options come from the grammar

An option gets into the matches of a command line only after the level that is read has
been asked for it.  What was read therefore `Fits` the grammar, level by level, and a
command without an option for an output file cannot be given one:
`output?_of_matches` is that the output file of a task is the one on the command line.
-/

namespace ResponsiveGrid.Command

/-! ## Matches that fit a level -/

/-- All options are options of a level. -/
def Offered (level : Level) (options : List (String × String)) : Prop :=
  ∀ o ∈ options, (level.option? o.1).isSome = true

/-- The options of matches are options of a level, and those of the subcommand options of
its level. -/
inductive Fits : Level → Matches → Prop
  | last {level : Level} {options : List (String × String)} {flags positions : List String}
      (h : Offered level options) : Fits level (.mk options flags positions none)
  | inside {level sub : Level} {options : List (String × String)} {flags positions : List String}
      {name : String} {inner : Matches} (h : Offered level options)
      (hsub : level.child? name = some sub) (hinner : Fits sub inner) :
      Fits level (.mk options flags positions (some (name, inner)))

section Progress

variable {level : Level} {p q : Progress}

theorem offered_addOption {name value : String} (hp : Offered level p.options)
    (h : p.addOption level name value = .ok q) : Offered level q.options := by
  unfold Progress.addOption at h
  split at h
  · cases h
  · split at h
    · cases h
    · next kind hkind =>
      split at h
      · cases h
        intro o ho
        rcases List.mem_append.1 ho with ho | ho
        · exact hp o ho
        · rw [List.mem_singleton.1 ho, hkind]
          rfl
      · cases h

theorem options_addPosition {value : String} (h : p.addPosition level value = .ok q) :
    q.options = p.options := by
  unfold Progress.addPosition at h
  split at h
  · cases h
  · split at h
    · cases h
      rfl
    · cases h

theorem options_addFlag {name : String} (h : p.addFlag name = .ok q) :
    q.options = p.options := by
  unfold Progress.addFlag at h
  split at h
  · cases h
  · cases h
    rfl

theorem offered_settle (hp : Offered level p.options) (h : p.settle level = .ok q) :
    Offered level q.options := by
  unfold Progress.settle at h
  split at h
  · cases h
    exact hp
  · cases h
  · exact offered_addOption (p := { p with pending := none }) hp h
  · rw [options_addPosition h]
    exact hp

/-- Asking for help or for the version ends the reading. -/
theorem settleAnd_ne_ok {stop : Stop} : p.settleAnd level stop ≠ .ok q := by
  unfold Progress.settleAnd
  split <;> simp

theorem offered_readLong {name : String} {attached : Option String}
    (hp : Offered level p.options) (h : readLong level p name attached = .ok q) :
    Offered level q.options := by
  unfold readLong at h
  split at h
  · split at h
    · next hsettle => exact offered_addOption (offered_settle hp hsettle) h
    · cases h
  · split at h
    · next hsettle =>
      have hoffered := offered_settle hp hsettle
      cases h
      exact hoffered
    · cases h
  · cases h
  · split at h
    · exact absurd h settleAnd_ne_ok
    · split at h
      · exact absurd h settleAnd_ne_ok
      · split at h
        · split at h
          · next hsettle =>
            rw [options_addFlag h]
            exact offered_settle hp hsettle
          · cases h
        · cases h

/-- No option has a name of one letter. -/
theorem readShort_ne_ok {letter : Char} : readShort level p letter ≠ .ok q := by
  unfold readShort
  split
  · exact settleAnd_ne_ok
  · split
    · exact settleAnd_ne_ok
    · simp

theorem offered_readPosition {word : String} (hp : Offered level p.options)
    (h : readPosition level p word = .ok q) : Offered level q.options := by
  unfold readPosition at h
  split at h
  · cases h
  · next hsettle =>
    have hoffered := offered_settle hp hsettle
    split at h
    · cases h
      exact hoffered
    · cases h

theorem offered_readWord {word : String} (hp : Offered level p.options)
    (h : readWord level p word = .ok q) : Offered level q.options := by
  unfold readWord at h
  split at h
  · exact offered_readPosition hp h
  · split at h
    · cases h
      exact hp
    · simp only at h
      split at h
      · exact offered_readLong hp h
      · exact offered_readLong hp h
    · exact absurd h readShort_ne_ok
    · unfold readValue at h
      split at h
      · cases h
        exact hp
      · exact offered_readPosition hp h

/-- The matches of a level hold the options that were read, and the subcommand. -/
theorem conclude_eq_ok {child : Option (String × Matches)} {m : Matches}
    (hp : Offered level p.options) (h : conclude level p child = .ok m) :
    ∃ options flags positions, m = .mk options flags positions child ∧ Offered level options := by
  unfold conclude at h
  split at h
  · cases h
  · next q hsettle =>
    simp only at h
    split at h
    · cases h
    · split at h
      · cases h
      · split at h
        · cases h
        · cases h
          exact ⟨q.options, q.flags, q.positions, rfl, offered_settle hp hsettle⟩

end Progress

theorem fits_readFrom {level : Level} {p : Progress} {words : List String} {m : Matches}
    (hp : Offered level p.options) (h : readFrom level p words = .ok m) : Fits level m := by
  induction words generalizing level p m with
  | nil =>
    obtain ⟨options, flags, positions, rfl, hoffered⟩ := conclude_eq_ok hp h
    exact .last hoffered
  | cons word rest ih =>
    rw [readFrom] at h
    split at h
    · next sub hchild =>
      have hsub : level.child? word = some sub := by
        split at hchild
        · cases hchild
        · exact hchild
      split at h
      · next inner hinner =>
        obtain ⟨options, flags, positions, rfl, hoffered⟩ := conclude_eq_ok hp h
        exact .inside hoffered hsub (ih (p := {}) (List.forall_mem_nil _) hinner)
      · cases h
    · split at h
      · cases h
      · split at h
        · next hword => exact ih (offered_readWord hp hword) h
        · cases h

/-- What is read from a command line fits the grammar. -/
theorem fits_readLine {level : Level} {words : List String} {m : Matches}
    (h : readLine level words = .ok m) : Fits level m :=
  fits_readFrom (p := {}) (List.forall_mem_nil _) h

/-! ## Options of matches -/

theorem find?_of_offered {level : Level} {options : List (String × String)} {name : String}
    (h : Offered level options) (hname : level.option? name = none) :
    options.find? (fun o => o.1 == name) = none := by
  rw [List.find?_eq_none]
  intro o ho heq
  have hsome := h o ho
  rw [eq_of_beq heq, hname] at hsome
  cases hsome

theorem child?_of_fits {level : Level} {m : Matches} (h : Fits level m)
    (hchildren : level.children = []) : m.child? = none := by
  cases h with
  | last _ => rfl
  | inside _ hsub _ =>
    unfold Level.child? at hsub
    rw [hchildren] at hsub
    cases hsub

/-- For matches without a subcommand there is one place where an option can be. -/
theorem innermost?_of_child? {m : Matches} (h : m.child? = none) (name : String) :
    m.innermost? name = m.option? name := by
  obtain ⟨options, flags, positions, child⟩ := m
  cases h
  rw [Matches.innermost?]
  rfl

theorem innermost?_inside {options : List (String × String)} {flags positions : List String}
    {sub : String} {inner : Matches} {name : String} (hinner : inner.innermost? name = none) :
    (Matches.mk options flags positions (some (sub, inner))).innermost? name =
      (options.find? fun o => o.1 == name).map Prod.snd := by
  rw [Matches.innermost?, hinner]

theorem innermost?_eq_none {level : Level} {m : Matches} {name : String} (h : Fits level m)
    (hchildren : level.children = []) (hname : level.option? name = none) :
    m.innermost? name = none := by
  have hchild := child?_of_fits h hchildren
  rw [innermost?_of_child? hchild]
  cases h with
  | last hoffered => exact congrArg (Option.map Prod.snd) (find?_of_offered hoffered hname)
  | inside _ _ _ => cases hchild

/-! ## The output file -/

/-- The file that a task is asked to save its answer in. -/
def Task.output? : Task → Option String
  | .generate _ output => output
  | .default output _ => output
  | .layout _ _ _ _ => none
  | .inspect _ _ => none
  | .encode _ _ => none
  | .decode _ _ => none
  | .edit _ output _ => output

/-- The output file that a command line names. -/
def outputOf? (words : List String) : Option String :=
  match readLine rootLevel words with
  | .error _ => none
  | .ok m => m.innermost? outputOption.1

/-- No edit and no task on query strings has an option for an output file of its own. -/
theorem option?_of_child? {level sub : Level} {name : String} (h : level.child? name = some sub)
    (hlevel : level.children = editLevels ∨ level.children = queryLevel.children) :
    sub.children = [] ∧ sub.option? outputOption.1 = none := by
  obtain ⟨⟨word, found⟩, hfind, rfl⟩ := Option.map_eq_some_iff.1 h
  have hmem := List.mem_of_find?_eq_some hfind
  rcases hlevel with hlevel | hlevel
  · rw [hlevel] at hmem
    simp only [editLevels, List.mem_cons, Prod.mk.injEq, List.not_mem_nil, or_false] at hmem
    rcases hmem with ⟨-, rfl⟩ | ⟨-, rfl⟩ | ⟨-, rfl⟩ | ⟨-, rfl⟩ | ⟨-, rfl⟩ <;> exact ⟨rfl, rfl⟩
  · rw [hlevel] at hmem
    simp only [queryLevel, Level.children, List.mem_cons, Prod.mk.injEq, List.not_mem_nil,
      or_false] at hmem
    rcases hmem with ⟨-, rfl⟩ | ⟨-, rfl⟩ <;> exact ⟨rfl, rfl⟩

theorem output?_of_query {name : String} {m : Matches} {task : Task}
    (h : Task.ofQuery? name m = some task) : task.output? = none := by
  unfold Task.ofQuery? at h
  split at h
  · cases h
    rfl
  · cases h
    rfl
  · cases h

/-- The output file of a task is the one that was given for its command. -/
theorem output?_of_task {name : String} {sub : Level} {m : Matches} {task : Task}
    (hsub : rootLevel.child? name = some sub) (hfits : Fits sub m)
    (h : Task.ofMatches? name m = some task) :
    task.output? = m.innermost? outputOption.1 := by
  unfold Task.ofMatches? at h
  simp only at h
  split at h
  · next hchild =>
    cases h
    exact (innermost?_of_child? hchild _).symm
  · next hchild =>
    cases h
    exact (innermost?_of_child? hchild _).symm
  · next hchild =>
    cases h
    cases hsub
    exact (innermost?_eq_none hfits rfl rfl).symm
  · next hchild =>
    cases h
    cases hsub
    exact (innermost?_eq_none hfits rfl rfl).symm
  · next word inner hchild =>
    cases hsub
    cases hfits with
    | last _ => cases hchild
    | inside hoffered hsub hinner =>
      obtain ⟨hchildren, hnone⟩ := option?_of_child? hsub (.inr rfl)
      rw [output?_of_query h, innermost?_inside (innermost?_eq_none hinner hchildren hnone),
        find?_of_offered hoffered rfl]
      rfl
  · next word inner hchild =>
    cases hsub
    obtain ⟨edit, -, rfl⟩ := Option.map_eq_some_iff.1 h
    cases hfits with
    | last _ => cases hchild
    | inside hoffered hsub hinner =>
      obtain ⟨hchildren, hnone⟩ := option?_of_child? hsub (.inl rfl)
      rw [innermost?_inside (innermost?_eq_none hinner hchildren hnone)]
      rfl
  · cases h

/-- The output file of the task of a command line is the one that the line names. -/
theorem output?_of_read {words : List String} {i : Invocation}
    (h : Invocation.read words = .ok i) : i.task.output? = outputOf? words := by
  unfold Invocation.read at h
  unfold outputOf?
  cases hm : readLine rootLevel words with
  | error stop =>
    rw [hm] at h
    cases h
  | ok m =>
    rw [hm] at h
    simp only at h
    simp only
    cases hmatches : Invocation.ofMatches? m with
    | none =>
      rw [hmatches] at h
      cases h
    | some invocation =>
      rw [hmatches] at h
      cases h
      unfold Invocation.ofMatches? at hmatches
      have hfits := fits_readLine hm
      cases hfits with
      | last _ => cases hmatches
      | @inside _ _ _ _ _ name inner hoffered hsub hinner =>
        obtain ⟨task, htask, rfl⟩ := Option.map_eq_some_iff.1 hmatches
        show task.output? = _
        rw [output?_of_task hsub hinner htask, Matches.innermost?, find?_of_offered hoffered rfl]
        cases inner.innermost? outputOption.1 <;> rfl

end ResponsiveGrid.Command
