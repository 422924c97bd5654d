import TableQuery.Proofs.Query.History
import TableQuery.Proofs.Query.InPlace

/-!
# Updates that do not meet

An update reads the cells of the one column that its condition is on and sets cells of one column.
Two updates are independent if they set different columns and neither reads what the other sets.
Then each selects the same rows whether the other was carried out before or not, and it does not
matter which cell of a row is set first. So independent updates may be carried out in any order.

* `Sets`, `Reads`, `Independent`: the columns that updates set and read;
* `test_insert`: a condition does not see other columns than its own;
* `Plan.Apart`: what the plans of independent updates are like, and that they commute
  (`answer_after`, `after_comm`);
* `updates_commute`: two updates, with their remarks, also in memory;
* `tableAfterAll_perm`: any number of updates, of which some may fail.
-/

namespace TableQuery

theorem Row.insert_comm {name other : String} (h : name ≠ other) (row : Row) (x y : Cell) :
    (row.insert name x).insert other y = (row.insert other y).insert name x := by
  refine ext_get? fun key => ?_
  simp only [get?_insert]
  by_cases first : key = name
  · rw [if_pos first, if_pos first, if_neg fun second => h (first.symm.trans second)]
  · rw [if_neg first, if_neg first]

namespace Query

/-! ## What updates set and read -/

/-- The column that an update sets. -/
inductive Sets (fuzzy : Bool) (headers : List String) : Statement → String → Prop
  | update {tableRef name value column : String} {filter : Option Filter}
      (resolved : (Scope.resolve ⟨headers, tableRef, fuzzy⟩ name).result = .ok column) :
      Sets fuzzy headers (.update tableRef name value filter) column

/-- The column that the condition of an update is on. -/
inductive Reads (fuzzy : Bool) (headers : List String) : Statement → String → Prop
  | update {tableRef name value column : String} {p : Predicate}
      (resolved : (Scope.resolve ⟨headers, tableRef, fuzzy⟩ p.column).result = .ok column) :
      Reads fuzzy headers (.update tableRef name value (some (.predicate p))) column

/-- Two updates that set different columns, of which neither has a condition on the column that the
other sets. -/
structure Independent (fuzzy : Bool) (headers : List String) (s t : Statement) : Prop where
  updates : s.kind = .update ∧ t.kind = .update
  targets : ∀ c, Sets fuzzy headers s c → ¬Sets fuzzy headers t c
  left : ∀ c, Sets fuzzy headers s c → ¬Reads fuzzy headers t c
  right : ∀ c, Sets fuzzy headers t c → ¬Reads fuzzy headers s c

section

variable {fuzzy : Bool} {headers : List String} {s t : Statement}

theorem Independent.symm (h : Independent fuzzy headers s t) : Independent fuzzy headers t s :=
  ⟨h.updates.symm, fun c ht hs => h.targets c hs ht, h.right, h.left⟩

/-! ## Conditions -/

/-- A condition on another column does not see that the cell is set. -/
theorem test_insert [PatternLibrary] {scope : Scope} {filter : Option Filter} {test : Row → Bool}
    {column : String} (tested : (rowTest scope filter).result = .ok test)
    (other : ∀ p, filter = some (.predicate p) → (scope.resolve p.column).result ≠ .ok column)
    (cell : Cell) (row : Row) : test (row.insert column cell) = test row := by
  unfold rowTest at tested
  split at tested
  · rw [← Except.ok.inj tested]
  · rw [Outcome.result_bind_eq_ok] at tested
    obtain ⟨_, -, e⟩ := tested
    rw [← Except.ok.inj e]
  · next filter readable =>
    cases filter with
    | invalid clause reason => exact absurd rfl (readable clause reason)
    | predicate p =>
      simp only [Filter.rowTest, Outcome.result_bind_eq_ok] at tested
      obtain ⟨read, resolved, cellTest, -, e⟩ := tested
      have apart : read ≠ column := fun same => other p rfl (same ▸ resolved)
      rw [← Except.ok.inj e]
      show cellTest ((row.insert column cell).cell read) = cellTest (row.cell read)
      rw [Row.cell_insert, if_neg apart]

/-! ## Plans -/

/-- The plans set different columns, and neither test sees what the other plan sets. -/
inductive Plan.Apart : Plan → Plan → Prop
  | updates {c d : String} {x y : Cell} {f g : Row → Bool} (targets : c ≠ d)
      (left : ∀ row : Row, g (row.insert c x) = g row)
      (right : ∀ row : Row, f (row.insert d y) = f row) :
      Apart (.update c x f) (.update d y g)

namespace Plan

variable {p q : Plan}

theorem Apart.symm (h : p.Apart q) : q.Apart p := by
  cases h with
  | updates targets left right => exact .updates targets.symm right left

theorem test_assign {f g : Row → Bool} {d : String} {y : Cell}
    (right : ∀ row : Row, f (row.insert d y) = f row) (row : Row) :
    f (assign g d y row) = f row := by
  rw [assign]
  split
  · exact right row
  · rfl

/-- Setting a cell behind another one is setting it before. -/
theorem assign_comm {c d : String} {x y : Cell} {f g : Row → Bool} (targets : c ≠ d)
    (left : ∀ row : Row, g (row.insert c x) = g row)
    (right : ∀ row : Row, f (row.insert d y) = f row) (row : Row) :
    assign f c x (assign g d y row) = assign g d y (assign f c x row) := by
  unfold assign
  -- a row passes each test or not, and the other assignment does not change which
  by_cases hf : f row = true
  · by_cases hg : g row = true
    · rw [if_pos hg, if_pos hf, right, left, if_pos hf, if_pos hg]
      exact (row.insert_comm targets x y).symm
    · rw [if_neg hg, if_pos hf, left, if_neg hg]
  · by_cases hg : g row = true
    · rw [if_pos hg, right, if_neg hf, if_neg hf, if_pos hg]
    · rw [if_neg hg, if_neg hf, if_neg hg]

/-- A plan counts the same rows behind the other one. -/
theorem Apart.answer_after (h : p.Apart q) (t : Table) : p.answer (q.after t) = p.answer t := by
  cases h with
  | @updates c d x y f g targets left right =>
    have count : (t.rows.map (assign g d y)).countP f = t.rows.countP f := by
      rw [List.countP_map]
      exact List.countP_congr fun row _ => by rw [Function.comp_apply, test_assign right]
    exact congrArg (Answer.updated c) count

/-- The order of the two plans does not matter. -/
theorem Apart.after_comm (h : p.Apart q) (t : Table) :
    p.after (q.after t) = q.after (p.after t) := by
  cases h with
  | @updates c d x y f g targets left right =>
    have rows : (t.rows.map (assign g d y)).map (assign f c x) =
        (t.rows.map (assign f c x)).map (assign g d y) := by
      rw [List.map_map, List.map_map]
      exact List.map_congr_left fun row _ => assign_comm targets left right row
    exact congrArg (fun rows => { t with rows := rows }) rows

end Plan

variable [PatternLibrary]

/-- The plans of independent updates. -/
theorem Independent.apart (h : Independent fuzzy headers s t) {p q : Plan}
    (hp : (plan fuzzy headers s).result = .ok p) (hq : (plan fuzzy headers t).result = .ok q) :
    p.Apart q := by
  obtain ⟨⟨hs, ht⟩, targets, left, right⟩ := h
  cases comesTo_of_plan hp with
  | select => cases hs
  | delete => cases hs
  | update set tested =>
    cases comesTo_of_plan hq with
    | select => cases ht
    | delete => cases ht
    | update set' tested' =>
      refine .updates (fun same => targets _ (.update set) (.update (same ▸ set'))) ?_ ?_
      · refine test_insert tested' (fun p e read => ?_) _
        subst e
        exact left _ (.update set) (.update read)
      · refine test_insert tested (fun p e read => ?_) _
        subst e
        exact right _ (.update set') (.update read)

/-! ## Two updates -/

variable {table between after : Table} {a b : Answer}

/-- What the steps of a statement that is carried out come to in memory. -/
theorem run_execute_of_ok {remarks : List Diagnostic}
    (h : execute fuzzy table s = ⟨remarks, .ok (a, after)⟩) (earlier : List Diagnostic) :
    (InPlace.execute fuzzy s).run ⟨table, earlier⟩ = (.ok a, ⟨after, earlier ++ remarks⟩) := by
  rw [execute_refines, h]
  rfl

/-- Independent updates that are carried out one after the other can be carried out in the other
order. Each of them makes the same remarks and counts the same rows, and the table that they leave
is the same, also in memory. -/
theorem updates_commute (h : Independent fuzzy table.headers s t)
    (first : (execute fuzzy table s).result = .ok (a, between))
    (second : (execute fuzzy between t).result = .ok (b, after)) :
    ∃ between',
      execute fuzzy table t = ⟨(execute fuzzy between t).diagnostics, .ok (b, between')⟩ ∧
      execute fuzzy between' s = ⟨(execute fuzzy table s).diagnostics, .ok (a, after)⟩ ∧
      ∀ earlier, (InPlace.execute fuzzy s).run ((InPlace.execute fuzzy t).run ⟨table, earlier⟩).2 =
        (.ok a, ⟨after, earlier ++ (execute fuzzy between t).diagnostics ++
          (execute fuzzy table s).diagnostics⟩) := by
  obtain ⟨p, hp, rfl, rfl⟩ := exists_plan_of_execute first
  obtain ⟨q, hq, rfl, rfl⟩ := exists_plan_of_execute second
  rw [Plan.headers_after] at hq
  have apart := h.apart hp hq
  have others : execute fuzzy table t =
      ⟨(execute fuzzy (p.after table) t).diagnostics, .ok (q.answer (p.after table),
        q.after table)⟩ := by
    rw [execute_of_plan hq rfl, execute_of_plan hq (p.headers_after table),
      apart.symm.answer_after]
  have last : execute fuzzy (q.after table) s =
      ⟨(execute fuzzy table s).diagnostics, .ok (p.answer table, q.after (p.after table))⟩ := by
    rw [execute_of_plan hp (q.headers_after table), execute_of_plan hp rfl, apart.answer_after,
      apart.after_comm]
  refine ⟨q.after table, others, last, fun earlier => ?_⟩
  rw [run_execute_of_ok others, run_execute_of_ok last]

end

/-- An update with a condition on the column that it sets and one under a name in other letters, on
rows with absent cells. -/
theorem updates_commute_absent :
    Independent true ["a", "b", "k"] (.update "t" "a" "x" (some (.predicate (.among "a" ["1"]))))
      (.update "t" "B" "2" (some (.predicate (.like "k" "%")))) ∧
    ∃ between', (execute true ⟨["a", "b", "k"], [.ofList [("a", .int 1)],
        .ofList [("a", .int 1), ("b", .int 3)]], false⟩
        (.update "t" "B" "2" (some (.predicate (.like "k" "%"))))).result =
          .ok (.updated "b" 2, between') ∧
      execute true between' (.update "t" "a" "x" (some (.predicate (.among "a" ["1"])))) =
        ⟨[], .ok (.updated "a" 2, ⟨["a", "b", "k"],
          [.ofList [("a", .string "x"), ("b", .int 2)],
            .ofList [("a", .string "x"), ("b", .int 2)]], false⟩)⟩ := by
  have a : (Scope.resolve ⟨["a", "b", "k"], "t", true⟩ "a").result = .ok "a" := by decide +kernel
  have b : (Scope.resolve ⟨["a", "b", "k"], "t", true⟩ "B").result = .ok "b" := by decide +kernel
  have k : (Scope.resolve ⟨["a", "b", "k"], "t", true⟩ "k").result = .ok "k" := by decide +kernel
  have differ {c d column : String} {x y : Except QueryError String} (hc : x = .ok c)
      (hd : y = .ok d) (ne : c ≠ d) (hx : x = .ok column) (hy : y = .ok column) : False :=
    ne ((Except.ok.inj (hc.symm.trans hx)).trans (Except.ok.inj (hd.symm.trans hy)).symm)
  have independent : Independent true ["a", "b", "k"]
      (.update "t" "a" "x" (some (.predicate (.among "a" ["1"]))))
      (.update "t" "B" "2" (some (.predicate (.like "k" "%")))) := by
    refine ⟨⟨rfl, rfl⟩, ?_, ?_, ?_⟩
    · rintro column ⟨set⟩ ⟨set'⟩
      exact differ a b (by decide) set set'
    · rintro column ⟨set⟩ ⟨read⟩
      exact differ a k (by decide) set read
    · rintro column ⟨set⟩ ⟨read⟩
      exact differ b a (by decide) set read
  have first : (execute true ⟨["a", "b", "k"], [.ofList [("a", .int 1)],
      .ofList [("a", .int 1), ("b", .int 3)]], false⟩
      (.update "t" "a" "x" (some (.predicate (.among "a" ["1"]))))).result =
        .ok (.updated "a" 2, ⟨["a", "b", "k"], [.ofList [("a", .string "x")],
          .ofList [("a", .string "x"), ("b", .int 3)]], false⟩) := by
    decide +kernel
  have second : (execute true ⟨["a", "b", "k"], [.ofList [("a", .string "x")],
      .ofList [("a", .string "x"), ("b", .int 3)]], false⟩
      (.update "t" "B" "2" (some (.predicate (.like "k" "%"))))).result =
        .ok (.updated "b" 2, ⟨["a", "b", "k"], [.ofList [("a", .string "x"), ("b", .int 2)],
          .ofList [("a", .string "x"), ("b", .int 2)]], false⟩) := by
    decide +kernel
  obtain ⟨between', others, last, -⟩ := updates_commute independent first second
  refine ⟨independent, between', by rw [others], last.trans ?_⟩
  rfl

/-! ## Runs of updates -/

section

variable [PatternLibrary] {fuzzy : Bool} {headers : List String} {table : Table}
  {s t : Statement}

theorem tableAfter_of_plan {p : Plan} (h : (plan fuzzy headers s).result = .ok p)
    (same : table.headers = headers) : tableAfter table (execute fuzzy table s) = p.after table :=
  tableAfter_of_ok (by rw [execute_of_plan h same])

theorem tableAfter_of_error {e : QueryError} (h : (plan fuzzy headers s).result = .error e)
    (same : table.headers = headers) : tableAfter table (execute fuzzy table s) = table := by
  rw [execute_eq_plan, same, Outcome.map_of_error h]
  rfl

theorem headers_tableAfter (fuzzy : Bool) (table : Table) (s : Statement) :
    (tableAfter table (execute fuzzy table s)).headers = table.headers :=
  (descends_tableAfter fuzzy table s).headers

/-- What two independent updates leave, whether they fail or not. -/
theorem tableAfterAll_comm (h : Independent fuzzy table.headers s t) (rest : List Statement) :
    tableAfterAll fuzzy table (s :: t :: rest) = tableAfterAll fuzzy table (t :: s :: rest) := by
  have headers := headers_tableAfter fuzzy table
  simp only [tableAfterAll]
  refine congrArg (tableAfterAll fuzzy · rest) ?_
  cases hp : (plan fuzzy table.headers s).result with
  | error e => rw [tableAfter_of_error hp rfl, tableAfter_of_error hp (headers t)]
  | ok p =>
    cases hq : (plan fuzzy table.headers t).result with
    | error e => rw [tableAfter_of_error hq rfl, tableAfter_of_error hq (headers s)]
    | ok q =>
      rw [tableAfter_of_plan hp rfl, tableAfter_of_plan hq rfl,
        tableAfter_of_plan hq (p.headers_after table),
        tableAfter_of_plan hp (q.headers_after table), (h.apart hp hq).after_comm]

/-- Updates of which any two are independent leave the same table in any order. -/
theorem tableAfterAll_perm {statements others : List Statement} (perm : statements.Perm others)
    (h : statements.Pairwise (Independent fuzzy table.headers)) :
    tableAfterAll fuzzy table statements = tableAfterAll fuzzy table others := by
  induction perm generalizing table with
  | nil => rfl
  | cons s perm ih =>
    refine ih ?_
    rw [headers_tableAfter]
    exact (List.pairwise_cons.1 h).2
  | swap s t rest =>
    exact tableAfterAll_comm ((List.pairwise_cons.1 h).1 s List.mem_cons_self) rest
  | trans perm _ ih ih' => exact (ih h).trans (ih' (perm.pairwise h Independent.symm))

end

end Query

end TableQuery
