/-
**Columns are numbered by first appearance.**

A name in a text stands for a variable unless it is a row name or a word for the objective in front of a
colon, or a word that opens a declaration. Every form of a statement looks its variables up in the order
in which they are written, also where the sides of a comparison change places, for then the left one has
none. So the columns are the names, each once, in the order in which they first appear.

* `variablesIn`: the names that stand for variables in some pieces of a text.
* `Numbered`: what is stored of some names. `numbered_column`: looking up a name adds it behind them.
* `Action.names`: what an action looks up. `names_ofConstraint`: it is what the tokens name.
* `Reader.numbered_act`: what an action does to the columns.
* **`columns_numbered`**: the columns of a text, and after each of its statements.
-/

import LinearProgram.Proofs.Lp.Comparisons
import LinearProgram.Proofs.Lp.Grammar
import LinearProgram.Proofs.Lp.Pieces
import LinearProgram.Proofs.Lp.Written
import LinearProgram.Proofs.Problem.Alike

namespace LinearProgram.Lp

open Problem

/-! ### Names in a text -/

/-- The name that a token is. -/
def Token.name? : Token → Option String
  | name text => some text
  | _ => none

/-- The names among some tokens, in order. -/
def namesIn (tokens : List Located) : List String :=
  tokens.filterMap (·.token.name?)

/-- Whether a word opens a declaration, by what stands behind it: a name, or nothing. -/
def opensDeclaration (word : String) (behind : List Located) : Bool :=
  (section? word).isSome && match behind with
    | [] => true
    | ⟨.name _, _⟩ :: _ => true
    | _ => false

/-- **Where a piece of a text names variables**: behind a name and a colon, behind a word that opens a
declaration, or everywhere. -/
def variablePart (tokens : List Located) : List Located :=
  match tokens with
  | ⟨.name _, _⟩ :: ⟨.colon, _⟩ :: body => body
  | ⟨.name word, _⟩ :: body => if opensDeclaration word body then body else tokens
  | _ => tokens

/-- **The names that stand for variables**, in order. -/
def variablesIn (pieces : List (List Located)) : List String :=
  pieces.flatMap fun tokens => namesIn (variablePart tokens)

theorem eraseDups_eraseDups (names : List String) : names.eraseDups.eraseDups = names.eraseDups :=
  eraseDups_append_eraseDups [] names

/-! ### What is stored of the names -/

/-- What is stored of a name at a place: nothing if the column there has that name anyway. -/
def keptName (place : Nat) (name : String) : Option String :=
  if name == "C" ++ toString (place + 1) then none else some name

theorem getD_keptName (place : Nat) (name : String) :
    (keptName place name).getD ("C" ++ toString (place + 1)) = name := by
  unfold keptName
  split
  next same => exact (beq_iff_eq.mp same).symm
  next => rfl

theorem keptName_eq_none {place : Nat} {name : String} :
    keptName place name = none ↔ name = "C" ++ toString (place + 1) := by
  unfold keptName
  split
  next same => exact iff_of_true rfl (beq_iff_eq.mp same)
  next other => exact iff_of_false nofun fun same => other (beq_iff_eq.mpr same)

/-- **The columns are some names**, each once, in order of first appearance. -/
def Numbered (names : List String) (problem : Problem) : Prop :=
  problem.columns.map (·.name) = names.eraseDups.mapIdx keptName

namespace Numbered

variable {names others : List String} {problem after : Problem}

/-- The names of the columns stay. -/
theorem of_names (numbered : Numbered names problem)
    (same : after.columns.map (·.name) = problem.columns.map (·.name)) : Numbered names after :=
  same.trans numbered

theorem of_columns (numbered : Numbered names problem) (same : after.columns = problem.columns) :
    Numbered names after :=
  numbered.of_names (congrArg (List.map (·.name)) same)

/-- Names that appear in the same order for the first time. -/
theorem congr (numbered : Numbered names problem) (same : names.eraseDups = others.eraseDups) :
    Numbered others problem := by
  rw [Numbered, ← same]
  exact numbered

theorem modifyColumn (numbered : Numbered names problem) (index : Nat) {change : Column → Column}
    (keeps : ∀ column, (change column).name = column.name) :
    Numbered names (problem.modifyColumn index change) :=
  numbered.of_names (map_modify_eq _ _ _ _ keeps)

theorem columnCount_eq (numbered : Numbered names problem) :
    problem.columnCount = names.eraseDups.length := by
  have lengths := congrArg List.length numbered
  rwa [List.length_map, List.length_mapIdx] at lengths

/-- The name that is stored for a column. -/
theorem stored_eq (numbered : Numbered names problem) {index : Nat} {name : String}
    (listed : names.eraseDups[index - 1]? = some name) :
    (problem.column index).name = keptName (index - 1) name := by
  have stored : (problem.columns.map (·.name))[index - 1]?
      = (names.eraseDups.mapIdx keptName)[index - 1]? := congrArg (·[index - 1]?) numbered
  rw [List.getElem?_map, List.getElem?_mapIdx, listed] at stored
  obtain ⟨column, found, named⟩ := Option.map_eq_some_iff.mp stored
  rw [Problem.column, found]
  exact named

/-- **The name of a column is the one listed there.** -/
theorem columnName_eq (numbered : Numbered names problem) {index : Nat} (low : 1 ≤ index)
    {name : String} (listed : names.eraseDups[index - 1]? = some name) :
    problem.columnName index = name := by
  have read := getD_keptName (index - 1) name
  rw [Nat.sub_add_cancel low] at read
  rw [columnName, numbered.stored_eq listed, read]

theorem exists_listed (numbered : Numbered names problem) {index : Nat}
    (has : problem.HasColumn index) :
    names.eraseDups[index - 1]? = some (problem.columnName index) := by
  obtain ⟨low, high⟩ := has
  rw [numbered.columnCount_eq] at high
  have inside := List.getElem?_eq_getElem (Nat.lt_of_lt_of_le (Nat.sub_lt low Nat.one_pos) high)
  rw [numbered.columnName_eq low inside]
  exact inside

end Numbered

theorem numbered_empty : Numbered [] {} :=
  rfl

namespace Reader

variable {reader after : Reader} {line : Nat} {names : List String}

/-- A name is that of a column if it was met before. -/
theorem exists_findColumn?_iff (numbered : Numbered names reader.problem) {name : String} :
    (reader.findColumn? name).isSome ↔ name ∈ names := by
  rw [findColumn?, List.find?_isSome]
  constructor
  · rintro ⟨index, member, same⟩
    have listed := numbered.exists_listed (mem_columnIndices.mp member)
    rw [beq_iff_eq.mp same] at listed
    exact List.mem_eraseDups.mp (List.mem_of_getElem? listed)
  · intro met
    obtain ⟨place, listed⟩ := List.getElem?_of_mem (List.mem_eraseDups.mpr met)
    obtain ⟨inside, -⟩ := List.getElem?_eq_some_iff.mp listed
    have has : reader.problem.HasColumn (place + 1) :=
      ⟨Nat.le_add_left _ _, by rw [numbered.columnCount_eq]; exact inside⟩
    refine ⟨place + 1, mem_columnIndices.mpr has, beq_iff_eq.mpr ?_⟩
    exact numbered.columnName_eq has.1 (by rw [Nat.add_sub_cancel]; exact listed)

/-- **Looking up a name adds it behind the others**, unless it is one of them. -/
theorem numbered_column (numbered : Numbered names reader.problem) (name : String) :
    Numbered (names ++ [name]) (reader.column name).2.problem := by
  have found : (reader.findColumn? name).isSome ↔ name ∈ names := exists_findColumn?_iff numbered
  unfold Reader.column
  split
  next index here =>
    rw [here] at found
    refine numbered.congr ?_
    rw [eraseDups_concat, if_pos (found.mp rfl)]
  next missing =>
    rw [missing] at found
    have fresh : name ∉ names := fun met => nomatch found.mpr met
    have count := numbered.columnCount_eq
    dsimp only
    rw [Numbered, eraseDups_concat, if_neg fresh, List.mapIdx_concat, ← numbered, ← count]
    exact List.map_append

theorem numbered_entries (numbered : Numbered names reader.problem) (terms : List Term) :
    Numbered (names ++ terms.map (·.name)) (reader.entries terms).2.problem := by
  induction terms generalizing reader names with
  | nil =>
    rw [List.map_nil, List.append_nil]
    exact numbered
  | cons term rest hyp =>
    have later := hyp (numbered_column numbered term.name)
    rw [List.append_assoc] at later
    exact later

end Reader

/-! ### The names of an expression -/

/-- The names of a sum are those among the tokens that spell it. -/
theorem namesOf_eq_namesIn {tokens : List Located} {sum : List SignedFactor}
    (spelled : tokens.map (·.token) = sum.flatMap SignedFactor.tokens) :
    namesOf sum = namesIn tokens := by
  have one (given : SignedFactor) :
      given.tokens.filterMap Token.name? = given.factor.name?.toList := by
    have signs : (given.signs.map signToken).filterMap Token.name? = [] := by
      rw [List.filterMap_map, List.filterMap_eq_nil_iff]
      intro minus _
      cases minus <;> rfl
    rw [SignedFactor.tokens, List.filterMap_append, signs, List.nil_append]
    cases given.factor <;> rfl
  have located : namesIn tokens = (tokens.map (·.token)).filterMap Token.name? := by
    rw [List.filterMap_map]
    rfl
  rw [located, spelled, List.filterMap_flatMap, namesOf, List.filterMap_eq_flatMap_toList]
  simp only [one]

/-- **An expression has the names among its tokens**, in order of first appearance. -/
theorem Expression.names_read {line : Nat} {tokens : List Located} {expression : Expression}
    (read : Expression.read line tokens = .ok expression) :
    expression.terms.map (·.name) = (namesIn tokens).eraseDups := by
  obtain ⟨sum, spelled, signed⟩ := exists_spells read
  have value := readFrom_of_spells line true {} signed spelled
  rw [foldl_plus] at value
  obtain rfl := Except.ok.inj (read.symm.trans value)
  rw [collected, List.map_map, ← namesOf_eq_namesIn spelled]
  exact List.map_id _

/-- An expression without terms has no name among its tokens. -/
theorem Expression.namesIn_eq_nil {line : Nat} {tokens : List Located} {expression : Expression}
    (read : Expression.read line tokens = .ok expression) (constant : expression.terms = []) :
    namesIn tokens = [] := by
  have names := names_read read
  rw [constant] at names
  refine List.eq_nil_iff_forall_not_mem.mpr fun name member => ?_
  have listed := List.mem_eraseDups.mpr member
  rw [← names] at listed
  exact List.not_mem_nil listed

theorem names_addTerm {terms : List Term} (distinct : Distinct terms) (name : String)
    (coefficient : Float) : (addTerm name coefficient terms).map (·.name)
      = if name ∈ terms.map (·.name) then terms.map (·.name) else terms.map (·.name) ++ [name] := by
  split
  next met =>
    rw [addTerm_of_mem coefficient distinct met, List.map_map]
    refine List.map_congr_left fun term _ => ?_
    rw [Function.comp_apply]
    split
    next same => exact same.symm
    next => rfl
  next fresh =>
    rw [addTerm_of_notMem fresh, List.map_append]
    rfl

/-- **A difference has the names of both sides**, those of the first one in front. -/
theorem Expression.names_subtract {first second : Expression} {before behind : List String}
    (names : first.terms.map (·.name) = before.eraseDups)
    (names' : second.terms.map (·.name) = behind.eraseDups) :
    (first.subtract second).map (·.name) = (before ++ behind).eraseDups := by
  have fold (terms others : List Term) (met : List String)
      (start : terms.map (·.name) = met.eraseDups) :
      (others.foldl (fun terms term => addTerm term.name (-term.coefficient) terms) terms).map
        (·.name) = (met ++ others.map (·.name)).eraseDups := by
    induction others generalizing terms met with
    | nil => rw [List.foldl_nil, start, List.map_nil, List.append_nil]
    | cons term rest hyp =>
      have distinct : Distinct terms := by
        rw [Distinct, start]
        exact nodup_eraseDups met
      have step : (addTerm term.name (-term.coefficient) terms).map (·.name)
          = (met ++ [term.name]).eraseDups := by
        rw [names_addTerm distinct, start, eraseDups_concat]
        simp only [List.mem_eraseDups]
      rw [List.foldl_cons, hyp _ _ step, List.append_assoc]
      rfl
  rw [subtract, fold _ _ _ names, names', eraseDups_append_eraseDups]

/-! ### The names of an action -/

/-- The names that an action looks up, in order. -/
def Action.names : Action → List String
  | objective _ body | declaration _ body => namesIn body
  | bound term .. | boundBoth term .. => [term.name]
  | addRow _ terms .. | addRowBetween _ terms .. => terms.map (·.name)
  | moveLimit .. => []

namespace Action

section Constraints

variable {line : Nat} {label : Option String} {action : Action}

theorem names_single {terms : List Term} {relation : Relation} {value : Float}
    (asks : single line label terms relation value = .ok action) :
    action.names = terms.map (·.name) := by
  unfold single at asks
  split at asks <;> cases asks <;> rfl

theorem names_double (label : Option String) (terms : List Term) (lower upper : Float) :
    (double label terms lower upper).names = terms.map (·.name) := by
  unfold double
  split <;> rfl

/-- The names of a row of tokens are those between its relations. -/
theorem namesIn_splitRelations (tokens : List Located) :
    namesIn tokens = namesIn (splitRelations tokens).1
      ++ (splitRelations tokens).2.flatMap fun part => namesIn part.2 := by
  have others : namesIn tokens = namesIn (tokens.filter (!·.token.isRelation)) := by
    unfold namesIn
    rw [List.filterMap_filter]
    refine List.filterMap_congr fun located _ => ?_
    cases located.token <;> rfl
  rw [others, ← splitRelations_parts, namesIn, List.filterMap_append, List.filterMap_flatMap]
  rfl

/-- **A constraint looks up the names in it**, in order. -/
theorem names_ofConstraint {body : List Located}
    (asks : ofConstraint line label body = .ok action) :
    action.names.eraseDups = (namesIn body).eraseDups := by
  rw [namesIn_splitRelations body]
  cases formed_ofConstraint asks with
  | single cut _ _ read read' compared asks =>
    have names := Expression.names_read read
    have names' := Expression.names_read read'
    rw [cut, List.flatMap_singleton, names_single asks]
    cases compared with
    | kept => rw [Expression.names_subtract names names', eraseDups_eraseDups]
    -- Sides that change places have no names on their left.
    | turned none =>
      rw [Expression.names_subtract names' names, Expression.namesIn_eq_nil read none,
        List.append_nil, List.nil_append, eraseDups_eraseDups]
  | double cut read read' read'' none _ none' =>
    rw [cut, List.flatMap_cons, List.flatMap_singleton, Expression.namesIn_eq_nil read none,
      Expression.namesIn_eq_nil read'' none', List.append_nil, List.nil_append, names_double,
      Expression.names_read read', eraseDups_eraseDups]
  | moveLimit cut _ _ read none =>
    rw [cut, List.flatMap_singleton, Expression.namesIn_eq_nil read none]
    rfl

end Constraints

end Action

/-- What a statement says behind its first words. -/
def Statement.body : Statement → List Located
  | objective _ body | declaration _ body | constraint _ body => body

theorem Statement.body_ofTokens (tokens : List Located) :
    (ofTokens tokens).body = variablePart tokens := by
  unfold ofTokens
  split
  next word first second body => split <;> rfl
  next word first body labelled =>
    unfold variablePart opensDeclaration
    cases body with
    | nil =>
      dsimp only
      cases section? word <;> rfl
    | cons second rest =>
      obtain ⟨token, line⟩ := second
      cases token with
      | colon => exact (labelled line rest rfl).elim
      | name | number | relation | plus | minus | comma | semicolon =>
        dsimp only
        cases section? word <;> rfl
  next unnamed =>
    cases tokens with
    | nil => rfl
    | cons first rest =>
      obtain ⟨token, line⟩ := first
      cases token with
      | name word => exact (unnamed word line rest rfl).elim
      | number | relation | plus | minus | colon | comma | semicolon => rfl

/-- **A statement looks up the names that stand for variables in it.** -/
theorem Statement.names_action {line : Nat} {statement : Statement} {action : Action}
    (asks : statement.action line = .ok action) :
    action.names.eraseDups = (namesIn statement.body).eraseDups := by
  cases statement with
  | objective maximize body =>
    cases asks
    rfl
  | declaration declared body =>
    cases asks
    rfl
  | constraint label body => exact Action.names_ofConstraint asks

/-! ### The columns of a reader -/

namespace Reader

variable {reader after : Reader} {line : Nat} {names : List String}

theorem numbered_objective {maximize : Bool} {body : List Located}
    (numbered : Numbered names reader.problem)
    (done : reader.objective line maximize body = .ok after) :
    Numbered (names ++ namesIn body) after.problem := by
  obtain ⟨expression, read, rfl⟩ := exists_of_objective done
  have met : Numbered names ({ reader with hasObjective := true } : Reader).problem := numbered
  have looked := numbered_entries met expression.terms
  rw [Expression.names_read read] at looked
  have set (given : Problem) (entries : List Entry) :
      (entries.foldl (fun problem entry => problem.setObjective entry.column entry.coefficient)
        given).columns.map (·.name) = given.columns.map (·.name) := by
    induction entries generalizing given with
    | nil => rfl
    | cons entry rest hyp => exact (hyp _).trans (map_modify_eq _ _ _ _ fun _ => rfl)
  exact (looked.congr (eraseDups_append_eraseDups ..)).of_names (set _ _)

theorem numbered_declare (numbered : Numbered names reader.problem) (declared : Section)
    (name : String) : Numbered (names ++ [name]) (reader.declare declared name).problem := by
  have looked := numbered_column numbered name
  cases declared with
  | integer | free => exact looked.modifyColumn _ fun _ => rfl
  | binary => exact @Numbered.modifyColumn _ _ looked _ (·.setBinary true) fun _ => rfl

theorem numbered_declareAll {declared : Section} {body : List Located}
    (numbered : Numbered names reader.problem)
    (done : reader.declareAll declared body = .ok after) :
    Numbered (names ++ namesIn body) after.problem := by
  fun_induction Reader.declareAll reader declared body generalizing names with
  | case1 reader =>
    cases done
    exact numbered.congr (congrArg List.eraseDups (List.append_nil names).symm)
  | case2 reader line rest hyp => exact hyp numbered done
  | case3 reader name line rest hyp =>
    have later := hyp (numbered_declare numbered declared name) done
    rw [List.append_assoc] at later
    exact later
  | case4 => cases done

theorem numbered_limits (numbered : Numbered names reader.problem) (name : String)
    (lower upper : Float) :
    Numbered (names ++ [name]) ((reader.column name).2.change
      (·.forceBounds (reader.column name).1 lower upper)).problem :=
  (numbered_column numbered name).modifyColumn _ fun _ => rfl

/-- **An action adds the names that it looks up.** -/
theorem numbered_act {action : Action} (numbered : Numbered names reader.problem)
    (done : reader.act line action = .ok after) :
    Numbered (names ++ action.names) after.problem := by
  cases action with
  | objective maximize body => exact numbered_objective numbered done
  | declaration declared body => exact numbered_declareAll numbered (declareAll_of_declaration done)
  | bound term relation value =>
    obtain ⟨lower, upper, rfl⟩ := exists_of_bound done
    exact numbered_limits numbered term.name lower upper
  | boundBoth term =>
    obtain ⟨lower, upper, rfl⟩ := exists_of_boundBoth done
    exact numbered_limits numbered term.name lower upper
  | addRow label terms relation rhs =>
    exact (numbered_entries numbered terms).of_columns (columns_addRow done)
  | addRowBetween label terms lower upper =>
    exact (numbered_entries numbered terms).of_columns (columns_addRowBetween done)
  | moveLimit name relation value =>
    obtain ⟨index, -, row, -, rfl⟩ := exists_row_of_moveLimit done
    exact numbered.congr (congrArg List.eraseDups (List.append_nil names).symm)

theorem numbered_statement {tokens : List Located} (numbered : Numbered names reader.problem)
    (done : reader.statement tokens = .ok after) :
    Numbered (names ++ namesIn (variablePart tokens)) after.problem := by
  cases tokens with
  | nil =>
    cases done
    exact numbered.congr (congrArg List.eraseDups (List.append_nil names).symm)
  | cons first rest =>
    obtain ⟨action, asks, done⟩ := exists_of_bind_ok done
    refine (numbered_act numbered done).congr ?_
    have same := Statement.names_action asks
    rw [Statement.body_ofTokens] at same
    rw [← eraseDups_append_eraseDups, same, eraseDups_append_eraseDups]

/-- **Pieces of a text add their variables**, one piece after the other. -/
theorem numbered_run {pieces : List (List Located)} (numbered : Numbered names reader.problem)
    (done : reader.run pieces = .ok after) :
    Numbered (names ++ variablesIn pieces) after.problem := by
  induction pieces generalizing reader names with
  | nil =>
    obtain rfl := Except.ok.inj done
    exact numbered.congr (congrArg List.eraseDups (List.append_nil names).symm)
  | cons tokens rest hyp =>
    obtain ⟨middle, first, later⟩ := exists_of_bind_ok done
    have all := hyp (numbered_statement numbered first) later
    rw [List.append_assoc] at all
    exact all

end Reader

/-! ### The columns of a text -/

/-- **The columns are numbered by some names**: there is one for each name, they have the names in the
order of first appearance, no two have the same, and a name is not stored exactly if it is the one that
the column has anyway. -/
structure NumberedBy (names : List String) (problem : Problem) : Prop where
  count : problem.columnCount = names.eraseDups.length
  listed : problem.columnIndices.map problem.columnName = names.eraseDups
  distinct : ColumnsDiffer problem
  default : ∀ index, problem.HasColumn index →
    ((problem.column index).name = none ↔ problem.columnName index = "C" ++ toString index)

theorem Numbered.numberedBy {names : List String} {problem : Problem}
    (numbered : Numbered names problem) : NumberedBy names problem := by
  have count := numbered.columnCount_eq
  have listed : problem.columnIndices.map problem.columnName = names.eraseDups := by
    refine List.ext_getElem ?_ fun place inside inside' => ?_
    · rw [List.length_map, columnIndices, List.length_range', count]
    · simp only [List.getElem_map, columnIndices, List.getElem_range'_1]
      refine numbered.columnName_eq (Nat.le_add_right 1 place) ?_
      rw [Nat.add_sub_cancel_left]
      exact List.getElem?_eq_getElem inside'
  refine ⟨count, listed, ?_, fun index has => ?_⟩
  · rw [ColumnsDiffer, listed]
    exact nodup_eraseDups names
  · rw [numbered.stored_eq (numbered.exists_listed has), keptName_eq_none,
      Nat.sub_add_cancel has.1]

/-- **Columns are numbered by first appearance.** Whatever text is read, its columns are the names that
stand for variables in it, each once, in the order in which they first appear, and so are the columns
after any of its statements with the names up to there. -/
theorem columns_numbered {text : String} {problem : Problem} (read : parse text = .ok problem) :
    ∃ tokens, scan 1 text.toList = .ok tokens ∧ NumberedBy (variablesIn (pieces tokens)) problem
      ∧ ∀ front, front <+: pieces tokens → ∃ reader, Reader.run {} front = .ok reader
        ∧ NumberedBy (variablesIn front) reader.problem := by
  obtain ⟨tokens, reader, scanned, done, rfl⟩ := exists_run_of_parse read
  refine ⟨tokens, scanned, (Reader.numbered_run numbered_empty done).numberedBy, ?_⟩
  intro front inFront
  obtain ⟨middle, first⟩ := Reader.exists_run_of_prefix inFront done
  exact ⟨middle, first, (Reader.numbered_run numbered_empty first).numberedBy⟩

/-- A text in which `C2` comes first, in which sides change places, and whose fourth column is `C4`. -/
def crossedText : String :=
  "max: 2 C2 + C1 - C2;\nR1: 3 >= y - C1;\nint C4, y;\n-1 <= 2 w <= 1;\n"

/-- After the objective and the first row there are three columns, and five in the end. -/
theorem columns_numbered_crossed : ∃ tokens problem, parse crossedText = .ok problem
    ∧ scan 1 crossedText.toList = .ok tokens
    ∧ (variablesIn (pieces tokens)).eraseDups = ["C2", "C1", "y", "C4", "w"]
    ∧ NumberedBy (variablesIn (pieces tokens)) problem
    ∧ ∃ reader, Reader.run {} ((pieces tokens).take 2) = .ok reader
      ∧ NumberedBy ["C2", "C1", "C2", "y", "C1"] reader.problem := by
  have scanned : ((scan 1 crossedText.toList).toOption.map fun tokens =>
      ((variablesIn (pieces tokens)).eraseDups, variablesIn ((pieces tokens).take 2)))
      = some (["C2", "C1", "y", "C4", "w"], ["C2", "C1", "C2", "y", "C1"]) := by decide +kernel
  have accepted : ((parse crossedText).toOption.map fun _ => ()) = some () := by decide +kernel
  obtain ⟨problem, read, -⟩ := exists_ok_of_view accepted
  obtain ⟨tokens, isTokens, names⟩ := exists_ok_of_view scanned
  obtain ⟨all, front⟩ := Prod.mk.inj names
  obtain ⟨tokens', isTokens', whole, parts⟩ := columns_numbered read
  obtain rfl := Except.ok.inj (isTokens.symm.trans isTokens')
  obtain ⟨reader, done, numbered⟩ := parts _ (List.take_prefix 2 _)
  exact ⟨tokens, problem, read, isTokens, all, whole, reader, done, front ▸ numbered⟩

end LinearProgram.Lp
