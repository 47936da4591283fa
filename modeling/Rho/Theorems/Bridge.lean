import Rho.Lib.RLangRead
import Rho.Server.Bridge

/-!
# The R code of a request

What the coordinator hands to R for a request should be one call of a fixed bridge function, with the caller's strings as literals
and nothing else of the caller's. It is, except that package names are put between quotes without quoting them, and that R refuses
a null character.
-/

namespace Rho

open RLang BridgeRequest

/-! ## The intended call -/

/-- A call of a function of the bridge environment. -/
def bridgeCall (fn : String) (args : List (Option String × Expr)) : Expr :=
  .call (.dollar (.call (.sym "getOption") [(none, .str "rho.bridge.env")]) fn) args

/-- A string literal, or `NULL`. -/
def optionLiteral : Option String → Expr
  | some s => .str s
  | none => .null

/-- An integer literal, or `NULL`. -/
def optionInteger : Option Nat → Expr
  | some n => .num (toString n ++ "L")
  | none => .null

/-- A vector of string literals. -/
def literals (values : List String) : Expr := .call (.sym "c") (values.map fun s => (none, .str s))

/-- A named vector of string literals, or `NULL` when there are none. -/
def repositoriesCall : Option (List (String × String)) → Expr
  | some (entry :: entries) =>
    .call (.ns "stats" "setNames")
      [(none, literals ((sortedRepositories (entry :: entries)).map (·.2))),
        (none, literals ((sortedRepositories (entry :: entries)).map (·.1)))]
  | _ => .null

/-- The package names asked for; the empty name when there are none. -/
def packageLiterals (packages : List String) : List String := if packages = [] then [""] else packages

namespace BridgeRequest

/-- The call that a request stands for: a fixed function, with every string of the caller as a literal. -/
def call : BridgeRequest → Expr
  | execute code => bridgeCall "rho_execute" [(none, .str code), (some "envir", .sym ".GlobalEnv")]
  | snapshot => bridgeCall "rho_workspace_snapshot" [(some "envir", .sym ".GlobalEnv")]
  | inspectObject name => bridgeCall "rho_inspect_object" [(none, .str name), (some "envir", .sym ".GlobalEnv")]
  | inspectDataObject name => bridgeCall "rho_inspect_data_object" [(none, .str name), (some "envir", .sym ".GlobalEnv")]
  | listPackageFunctions packages limit =>
    bridgeCall "rho_list_package_functions"
      [(some "packages", literals (packageLiterals packages)), (some "limit", .num (toString limit))]
  | functionHelp name package =>
    bridgeCall "rho_function_help" [(none, .str name), (some "package", optionLiteral package)]
  | functionDocumentation name package =>
    bridgeCall "rho_function_documentation" [(none, .str name), (some "package", .str package)]
  | lintFile path version =>
    bridgeCall "rho_lint_file" [(none, .str path), (some "document_version", .num (toString version))]
  | formatRSource source path version =>
    bridgeCall "rho_format_r_source"
      [(some "source", .str source), (some "path", .str path), (some "document_version", .num (toString version))]
  | inspectTargets root => bridgeCall "rho_inspect_targets" [(none, .str root)]
  | listInstalledPackages limit =>
    bridgeCall "rho_list_installed_packages" [(some "limit", .num (toString limit ++ "L"))]
  | listLockfilePackages root limit =>
    bridgeCall "rho_list_lockfile_packages" [(none, .str root), (some "limit", .num (toString limit ++ "L"))]
  | findFunctionDefinition name root => bridgeCall "rho_find_function_definition" [(none, .str name), (none, .str root)]
  | findProjectReferences name root limit =>
    bridgeCall "rho_find_project_references"
      [(none, .str name), (none, .str root), (some "limit", .num (toString limit ++ "L"))]
  | discoverChunks path limit =>
    bridgeCall "rho_discover_chunks" [(none, .str path), (some "limit", .num (toString limit))]
  | readDataView v =>
    bridgeCall "rho_read_data_view"
      [(some "object_name", .str v.objectName), (some "view_token", .str v.viewToken), (some "view_kind", .str v.viewKind),
        (some "view_key", .str v.viewKey), (some "row_offset", .num (toString v.rowOffset)),
        (some "row_limit", .num (toString v.rowLimit)), (some "column_offset", .num (toString v.columnOffset)),
        (some "column_limit", .num (toString v.columnLimit)), (some "query", optionLiteral v.query),
        (some "sort_column", optionInteger v.sortColumn), (some "sort_direction", optionLiteral v.sortDirection),
        (some "envir", .sym ".GlobalEnv")]
  | renderDocument path format =>
    bridgeCall "rho_render_document"
      [(none, .str path), (some "format", optionLiteral format), (some "envir", .sym ".GlobalEnv")]
  | environmentOperation a =>
    bridgeCall "rho_environment_operation"
      [(some "operation", .str a.operation), (some "project_dir", .str (a.projectRoot.getD "")),
        (some "repositories", repositoriesCall a.repositories), (some "bioconductor", optionLiteral a.bioconductor),
        (some "package", optionLiteral a.package), (some "project_library", optionLiteral a.projectLibrary)]
  | setProjectRoot code => bridgeCall "rho_execute" [(none, .str code), (some "envir", .sym ".GlobalEnv")]

/-- The strings that a request passes to R. -/
def strings : BridgeRequest → List String
  | execute code => [code]
  | snapshot => []
  | inspectObject name => [name]
  | inspectDataObject name => [name]
  | listPackageFunctions packages _ => packages
  | functionHelp name package => name :: package.toList
  | functionDocumentation name package => [name, package]
  | lintFile path _ => [path]
  | formatRSource source path _ => [source, path]
  | inspectTargets root => [root]
  | listInstalledPackages _ => []
  | listLockfilePackages root _ => [root]
  | findFunctionDefinition name root => [name, root]
  | findProjectReferences name root _ => [name, root]
  | discoverChunks path _ => [path]
  | readDataView v => [v.objectName, v.viewToken, v.viewKind, v.viewKey] ++ v.query.toList ++ v.sortDirection.toList
  | renderDocument path format => path :: format.toList
  | environmentOperation a =>
    a.operation :: (a.projectRoot.toList ++ (a.repositories.getD []).flatMap (fun e => [e.1, e.2]) ++ a.bioconductor.toList ++
      a.package.toList ++ a.projectLibrary.toList)
  | setProjectRoot code => [code]

end BridgeRequest

namespace BridgeAux

/-! ## The text is the text of the intended call -/

theorem bridgeEnv_toList : bridgeEnv.toList = (Expr.call (.sym "getOption") [(none, .str "rho.bridge.env")]).text := by decide

@[simp] theorem rString_toList (s : String) : (rString s).toList = Json.quote s := by
  simp [rString, Json.toText, Json.print]

@[simp] theorem rOptionString_toList (o : Option String) : (rOptionString o).toList = (optionLiteral o).text := by
  cases o with
  | none => rfl
  | some s => simp [rOptionString, optionLiteral, Expr.text]

@[simp] theorem rOptionInteger_toList (o : Option Nat) : (rOptionInteger o).toList = (optionInteger o).text := by
  cases o with
  | none => rfl
  | some n => simp [rOptionInteger, optionInteger, Expr.text]

theorem bridgeFunction_text (fn : String) :
    (Expr.dollar (.call (.sym "getOption") [(none, .str "rho.bridge.env")]) fn).text = bridgeEnv.toList ++ '$' :: fn.toList := by
  rw [Expr.text, ← bridgeEnv_toList]

theorem bridgeCall_text (fn : String) (name : Option String) (e : Expr) (args : List (Option String × Expr)) :
    (bridgeCall fn ((name, e) :: args)).text =
      bridgeEnv.toList ++ '$' :: (fn.toList ++ '(' :: (nameText name ++ (e.text ++ Expr.moreText args))) := by
  rw [bridgeCall, Expr.text, bridgeFunction_text]
  simp only [List.append_assoc, List.cons_append]

/-- The strings of a vector after the first, as they are joined with commas. -/
theorem moreText_literals (values : List String) :
    Expr.moreText (values.map fun s => (none, .str s)) = values.flatMap (fun s => ',' :: ' ' :: Json.quote s) ++ [')'] := by
  induction values with
  | nil => rfl
  | cons s values ih => simp [Expr.moreText, nameText, Expr.text, ih]

theorem intercalate_toList (separator : String) : ∀ (values : List String) (s : String),
    (separator.intercalate (s :: values)).toList = s.toList ++ values.flatMap (fun v => separator.toList ++ v.toList) := by
  intro values
  induction values with
  | nil => intro s; simp
  | cons v values ih => intro s; simp [String.intercalate_cons_cons, ih]

theorem rStrings_toList {values : List String} (h : values ≠ []) : ("c(" ++ rStrings values ++ ")").toList = (literals values).text := by
  cases values with
  | nil => exact absurd rfl h
  | cons s values =>
    rw [literals, List.map_cons, Expr.text, moreText_literals]
    simp only [rStrings, List.map_cons, String.toList_append, intercalate_toList, rString_toList, List.flatMap_map]
    simp [nameText, Expr.text]

theorem dataViewExpression_toList (v : DataViewRequest) :
    (dataViewExpression v).toList = (readDataView v).call.text := by
  unfold dataViewExpression
  rw [call, bridgeCall_text]
  simp only [String.toList_append, rString_toList, rOptionString_toList, rOptionInteger_toList, Expr.text, Expr.moreText,
    nameText, List.append_assoc, List.cons_append, List.nil_append]
  simp only [String.reduceToList, List.cons_append, List.nil_append]

/-- The branches that quote every string and write the call on one line. -/
def Quoted : BridgeRequest → Prop
  | .listPackageFunctions _ _ => False
  | .environmentOperation _ => False
  | _ => True

variable {r : BridgeRequest} {args : List (Option String × Expr)} {e : Expr}

theorem expression_toList (h : Quoted r) : r.expression.toList = r.call.text := by
  cases r with
  | execute code =>
    simp [expression, call, bridgeCall_text, Expr.text, Expr.moreText, nameText]
  | snapshot => simp [expression, call, bridgeCall_text, Expr.text, Expr.moreText, nameText]
  | inspectObject name =>
    simp [expression, call, bridgeCall_text, Expr.text, Expr.moreText, nameText]
  | inspectDataObject name =>
    simp [expression, call, bridgeCall_text, Expr.text, Expr.moreText, nameText]
  | listPackageFunctions packages limit => exact absurd h (by simp [Quoted])
  | functionHelp name package =>
    simp [expression, call, bridgeCall_text, Expr.text, Expr.moreText, nameText]
  | functionDocumentation name package =>
    simp [expression, call, bridgeCall_text, Expr.text, Expr.moreText, nameText]
  | lintFile path version =>
    simp [expression, call, bridgeCall_text, Expr.text, Expr.moreText, nameText]
  | formatRSource source path version =>
    simp [expression, call, bridgeCall_text, Expr.text, Expr.moreText, nameText]
  | inspectTargets root =>
    simp [expression, call, bridgeCall_text, Expr.text, Expr.moreText, nameText]
  | listInstalledPackages limit =>
    simp [expression, call, bridgeCall_text, Expr.text, Expr.moreText, nameText]
  | listLockfilePackages root limit =>
    simp [expression, call, bridgeCall_text, Expr.text, Expr.moreText, nameText]
  | findFunctionDefinition name root =>
    simp [expression, call, bridgeCall_text, Expr.text, Expr.moreText, nameText]
  | findProjectReferences name root limit =>
    simp [expression, call, bridgeCall_text, Expr.text, Expr.moreText, nameText]
  | discoverChunks path limit =>
    simp [expression, call, bridgeCall_text, Expr.text, Expr.moreText, nameText]
  | readDataView v => exact dataViewExpression_toList v
  | renderDocument path format =>
    simp [expression, call, bridgeCall_text, Expr.text, Expr.moreText, nameText]
  | environmentOperation a => exact absurd h (by simp [Quoted])
  | setProjectRoot code =>
    simp [expression, call, bridgeCall_text, Expr.text, Expr.moreText, nameText]

theorem environmentRepositoriesExpression_toList (repositories : Option (List (String × String))) :
    (environmentRepositoriesExpression repositories).toList = (repositoriesCall repositories).text := by
  match repositories with
  | none => rfl
  | some [] => rfl
  | some (entry :: entries) =>
    have hne : ∀ f : String × String → String, (sortedRepositories (entry :: entries)).map f ≠ [] := by
      intro f hnil
      have hperm := List.perm_insertionSort (fun a b : String × String => a.1 ≤ b.1) (entry :: entries)
      rw [List.map_eq_nil_iff] at hnil
      rw [sortedRepositories] at hnil
      rw [hnil] at hperm
      exact absurd hperm.symm.eq_nil (List.cons_ne_nil _ _)
    have hvalues := rStrings_toList (hne (·.2))
    have hnames := rStrings_toList (hne (·.1))
    unfold environmentRepositoriesExpression
    simp only [repositoriesCall, Expr.text, Expr.moreText, nameText, ← hvalues, ← hnames, String.toList_append,
      List.append_assoc, List.cons_append, List.nil_append]
    simp only [String.reduceToList, List.cons_append, List.nil_append]

theorem environmentOperation_toList (a : EnvironmentOperationArguments) :
    (environmentOperationBridgeExpression a).toList =
      linesText (.dollar (.call (.sym "getOption") [(none, .str "rho.bridge.env")]) "rho_environment_operation")
        (some "operation") (.str a.operation)
        [(some "project_dir", .str (a.projectRoot.getD "")), (some "repositories", repositoriesCall a.repositories),
          (some "bioconductor", optionLiteral a.bioconductor), (some "package", optionLiteral a.package),
          (some "project_library", optionLiteral a.projectLibrary)] := by
  unfold environmentOperationBridgeExpression
  rw [linesText, bridgeFunction_text]
  simp only [String.toList_append, rString_toList, rOptionString_toList,
    environmentRepositoriesExpression_toList, Expr.text, linesMore, nameText, List.append_assoc, List.cons_append,
    List.nil_append]
  simp only [String.reduceToList, List.cons_append, List.nil_append]

/-! ## The intended call is well-formed, and clean when its strings are -/

/-- A string without the null character. -/
def noNull (s : String) : Bool := !s.toList.contains '\x00'

theorem isNumber_toString (n : Nat) : isNumber (toString n) = true ∧ isNumber (toString n ++ "L") = true := by
  have hdigits : ∀ c ∈ Nat.toDigits 10 n, c.isDigit = true := by
    intro c hc
    exact Nat.isDigit_of_mem_toDigits (by decide) (by decide) hc
  have hlist : (toString n).toList = Nat.toDigits 10 n := Nat.toList_repr
  cases hd : Nat.toDigits 10 n with
  | nil => exact absurd hd Nat.toDigits_ne_nil
  | cons c l =>
    rw [hd] at hdigits
    have hc := hdigits c List.mem_cons_self
    have hdrop : ∀ s : List Char, (c :: l ++ s).dropWhile Char.isDigit = s.dropWhile Char.isDigit :=
      fun s => List.dropWhile_append_of_pos hdigits
    have hnil := hdrop []
    have hL := hdrop ['L']
    rw [List.append_nil] at hnil
    constructor
    · rw [isNumber, hlist, hd, hnil]
      simp [hc]
    · rw [isNumber, String.toList_append, hlist, hd]
      have hhead : ((c :: l ++ "L".toList).head?.map Char.isDigit).getD false = true := by simp [hc]
      rw [hhead]
      have hLlist : "L".toList = ['L'] := rfl
      rw [hLlist, hL]
      decide

theorem clean_str (s : String) : (Expr.str s).clean = noNull s := by
  rw [Expr.clean, noNull]

theorem wf_literals (values : List String) : (literals values).wf = true := by
  have hargs : Expr.wfArgs (values.map fun s => (none, .str s)) = true := by
    induction values with
    | nil => rfl
    | cons s values ih => simp [Expr.wfArgs, Expr.wf, ih]
  simp only [literals, Expr.wf, hargs, Bool.and_true]
  decide

theorem clean_literals (values : List String) : (literals values).clean = values.all noNull := by
  have hargs : Expr.cleanArgs (values.map fun s => (none, .str s)) = values.all noNull := by
    induction values with
    | nil => rfl
    | cons s values ih => simp [Expr.cleanArgs, Expr.clean, noNull, ih]
  simp [literals, Expr.clean, hargs]

@[simp] theorem wf_optionLiteral (o : Option String) : (optionLiteral o).wf = true := by
  cases o <;> rfl

@[simp] theorem clean_optionLiteral (o : Option String) : (optionLiteral o).clean = o.toList.all noNull := by
  cases o with
  | none => rfl
  | some s => simp [optionLiteral, Expr.clean, noNull]

@[simp] theorem wf_optionInteger (o : Option Nat) : (optionInteger o).wf = true := by
  cases o with
  | none => rfl
  | some n => exact (isNumber_toString n).2

@[simp] theorem clean_optionInteger (o : Option Nat) : (optionInteger o).clean = true := by
  cases o <;> rfl

@[simp] theorem wf_repositoriesCall (repositories : Option (List (String × String))) :
    (repositoriesCall repositories).wf = true := by
  match repositories with
  | none => rfl
  | some [] => rfl
  | some (entry :: entries) =>
    simp only [repositoriesCall, Expr.wf, Expr.wfArgs, wf_literals]
    decide

@[simp] theorem clean_repositoriesCall (repositories : Option (List (String × String))) :
    (repositoriesCall repositories).clean = ((repositories.getD []).flatMap (fun e => [e.1, e.2])).all noNull := by
  have hall : ∀ l : List (String × String),
      ((l.map (·.2)).all noNull && (l.map (·.1)).all noNull) = (l.flatMap (fun e => [e.1, e.2])).all noNull := by
    intro l
    induction l with
    | nil => rfl
    | cons e l ih =>
      simp only [List.map_cons, List.all_cons, List.flatMap_cons, List.cons_append, List.nil_append] at ih ⊢
      rw [← ih]
      cases noNull e.1 <;> cases noNull e.2 <;> simp
  match repositories with
  | none => rfl
  | some [] => rfl
  | some (entry :: entries) =>
    have hperm := List.perm_insertionSort (fun a b : String × String => a.1 ≤ b.1) (entry :: entries)
    simp only [repositoriesCall, Expr.clean, Expr.cleanArgs, clean_literals, Bool.true_and, Bool.and_true, Option.getD_some]
    rw [hall, sortedRepositories]
    exact (hperm.flatMap_right _).all_eq

theorem wf_bridgeCall {fn : String} (hfn : isName fn = true)
    (hargs : Expr.wfArgs args = true) : (bridgeCall fn args).wf = true := by
  have hhead : (Expr.call (.sym "getOption") [(none, .str "rho.bridge.env")]).wf = true := by decide
  rw [bridgeCall, Expr.wf, Expr.wf, hhead, hfn, hargs]
  rfl

theorem wfArgs_named {name : String} (hname : isName name = true)
    (he : e.wf = true) (hargs : Expr.wfArgs args = true) : Expr.wfArgs ((some name, e) :: args) = true := by
  simp [Expr.wfArgs, hname, he, hargs]

theorem wfArgs_plain (he : e.wf = true) (hargs : Expr.wfArgs args = true) : Expr.wfArgs ((none, e) :: args) = true := by
  simp [Expr.wfArgs, he, hargs]

theorem wfArgs_envir : Expr.wfArgs [(some "envir", .sym ".GlobalEnv")] = true := by decide

/-- The intended call of a request is well-formed. -/
theorem wf_call (r : BridgeRequest) : r.call.wf = true := by
  cases r with
  | execute code => exact wf_bridgeCall (by decide) (wfArgs_plain rfl wfArgs_envir)
  | snapshot => exact wf_bridgeCall (by decide) wfArgs_envir
  | inspectObject name => exact wf_bridgeCall (by decide) (wfArgs_plain rfl wfArgs_envir)
  | inspectDataObject name => exact wf_bridgeCall (by decide) (wfArgs_plain rfl wfArgs_envir)
  | listPackageFunctions packages limit =>
    exact wf_bridgeCall (by decide)
      (wfArgs_named (by decide) (wf_literals _) (wfArgs_named (by decide) (isNumber_toString limit).1 rfl))
  | functionHelp name package =>
    exact wf_bridgeCall (by decide) (wfArgs_plain rfl (wfArgs_named (by decide) (wf_optionLiteral package) rfl))
  | functionDocumentation name package =>
    exact wf_bridgeCall (by decide) (wfArgs_plain rfl (wfArgs_named (by decide) rfl rfl))
  | lintFile path version =>
    exact wf_bridgeCall (by decide) (wfArgs_plain rfl (wfArgs_named (by decide) (isNumber_toString version).1 rfl))
  | formatRSource source path version =>
    exact wf_bridgeCall (by decide) (wfArgs_named (by decide) rfl (wfArgs_named (by decide) rfl
      (wfArgs_named (by decide) (isNumber_toString version).1 rfl)))
  | inspectTargets root => exact wf_bridgeCall (by decide) (wfArgs_plain rfl rfl)
  | listInstalledPackages limit =>
    exact wf_bridgeCall (by decide) (wfArgs_named (by decide) (isNumber_toString limit).2 rfl)
  | listLockfilePackages root limit =>
    exact wf_bridgeCall (by decide) (wfArgs_plain rfl (wfArgs_named (by decide) (isNumber_toString limit).2 rfl))
  | findFunctionDefinition name root => exact wf_bridgeCall (by decide) (wfArgs_plain rfl (wfArgs_plain rfl rfl))
  | findProjectReferences name root limit =>
    exact wf_bridgeCall (by decide)
      (wfArgs_plain rfl (wfArgs_plain rfl (wfArgs_named (by decide) (isNumber_toString limit).2 rfl)))
  | discoverChunks path limit =>
    exact wf_bridgeCall (by decide) (wfArgs_plain rfl (wfArgs_named (by decide) (isNumber_toString limit).1 rfl))
  | readDataView v =>
    refine wf_bridgeCall (by decide) ?_
    refine wfArgs_named (by decide) rfl (wfArgs_named (by decide) rfl (wfArgs_named (by decide) rfl
      (wfArgs_named (by decide) rfl ?_)))
    refine wfArgs_named (by decide) (isNumber_toString _).1 (wfArgs_named (by decide) (isNumber_toString _).1
      (wfArgs_named (by decide) (isNumber_toString _).1 (wfArgs_named (by decide) (isNumber_toString _).1 ?_)))
    exact wfArgs_named (by decide) (wf_optionLiteral _) (wfArgs_named (by decide) (wf_optionInteger _)
      (wfArgs_named (by decide) (wf_optionLiteral _) wfArgs_envir))
  | renderDocument path format =>
    exact wf_bridgeCall (by decide) (wfArgs_plain rfl (wfArgs_named (by decide) (wf_optionLiteral format) wfArgs_envir))
  | environmentOperation a =>
    refine wf_bridgeCall (by decide) (wfArgs_named (by decide) rfl (wfArgs_named (by decide) rfl
      (wfArgs_named (by decide) (wf_repositoriesCall _) ?_)))
    exact wfArgs_named (by decide) (wf_optionLiteral _) (wfArgs_named (by decide) (wf_optionLiteral _)
      (wfArgs_named (by decide) (wf_optionLiteral _) rfl))
  | setProjectRoot code => exact wf_bridgeCall (by decide) (wfArgs_plain rfl wfArgs_envir)

theorem clean_bridgeCall (fn : String) (args : List (Option String × Expr)) :
    (bridgeCall fn args).clean = Expr.cleanArgs args := by
  have hhead : (Expr.call (.sym "getOption") [(none, .str "rho.bridge.env")]).clean = true := by decide
  rw [bridgeCall, Expr.clean, Expr.clean, hhead, Bool.true_and]

/-- The intended call is clean exactly when no string that the request passes holds the null character. -/
theorem clean_call (h : ∀ packages limit, r ≠ .listPackageFunctions packages limit) : r.call.clean = r.strings.all noNull := by
  cases r with
  | listPackageFunctions packages limit => exact absurd rfl (h packages limit)
  | environmentOperation a =>
    have hroot : noNull (a.projectRoot.getD "") = a.projectRoot.toList.all noNull := by
      cases a.projectRoot with
      | none => rfl
      | some root => simp
    simp only [call, strings, clean_bridgeCall, Expr.cleanArgs, clean_str,
      clean_repositoriesCall, clean_optionLiteral, hroot, List.all_cons, List.all_append, Bool.and_true, Bool.and_assoc]
  | readDataView v =>
    simp only [call, strings, clean_bridgeCall, Expr.cleanArgs, Expr.clean, clean_optionLiteral,
      clean_optionInteger, List.all_cons, List.all_append, List.all_nil, Bool.and_true, Bool.true_and, noNull, Bool.and_assoc]
  | _ =>
    simp only [call, strings, clean_bridgeCall, Expr.cleanArgs, Expr.clean, clean_optionLiteral,
      List.all_cons, List.all_nil, Bool.and_true, noNull]

/-! ## Package names between quotes -/

/-- Names between quotes as they are, with commas between them, after the first quote. -/
def rawNames (name : String) : List String → List Char
  | [] => name.toList ++ ['"']
  | next :: names => name.toList ++ '"' :: ',' :: ' ' :: '"' :: rawNames next names

/-- The tokens of string literals with commas between them. -/
def nameTokens (name : String) (names : List String) : List Token :=
  Token.str name :: names.flatMap (fun n => [Token.comma, Token.str n])

theorem rawNames_eq (name : String) (names : List String) :
    rawNames name names = ("\", \"".intercalate (name :: names)).toList ++ ['"'] := by
  rw [intercalate_toList]
  induction names generalizing name with
  | nil => simp [rawNames]
  | cons next names ih => simp [rawNames, ih next]

/-- Plain names are lexed as literals of themselves. -/
theorem lex_rawNames (names : List String) : ∀ (name : String) (depth : Nat) (s : List Char),
    (∀ n ∈ name :: names, n.toList.all isPlain = true) →
    lex depth ('"' :: (rawNames name names ++ s)) = before true (nameTokens name names) (lex depth s) := by
  induction names with
  | nil =>
    intro name depth s h
    have hbody := stringBody_of_plain (h name List.mem_cons_self) s
    simp only [rawNames, List.append_assoc, List.cons_append, List.nil_append]
    rw [lex_string, hbody]
    simp [before, nameTokens]
  | cons next names ih =>
    intro name depth s h
    have hbody := stringBody_of_plain (h name List.mem_cons_self) (',' :: ' ' :: '"' :: (rawNames next names ++ s))
    have hrest := ih next depth s (fun n hn => h n (List.mem_cons_of_mem _ hn))
    simp only [rawNames, List.append_assoc, List.cons_append]
    rw [lex_string, hbody, Option.bind_some, lex_comma, lex_space, hrest]
    simp [before, nameTokens, Option.map_map, Function.comp_def]

/-- Names that are lexed as literals of themselves are plain. -/
theorem plain_of_lex_rawNames (names : List String) : ∀ (name : String) (depth : Nat) (s : List Char) (ts : List Token),
    lex depth ('"' :: (rawNames name names ++ s)) = some (nameTokens name names ++ ts) →
    ∀ n ∈ name :: names, n.toList.all isPlain = true := by
  have hfirst : ∀ (name : String) (depth : Nat) (s : List Char) (ts : List Token),
      lex depth ('"' :: (name.toList ++ '"' :: s)) = some (Token.str name :: ts) →
      name.toList.all isPlain = true ∧ lex depth s = some ts := by
    intro name depth s ts h
    rw [lex_string] at h
    obtain ⟨⟨v, rest⟩, hbody, hmap⟩ := Option.bind_eq_some_iff.mp h
    obtain ⟨ts', hlex, heq⟩ := Option.map_eq_some_iff.mp hmap
    obtain ⟨hv, rfl⟩ := List.cons.inj heq
    have hname : v = name.toList := by
      rw [← Token.str.inj hv, String.toList_ofList]
    rw [hname] at hbody
    obtain ⟨hplain, rfl⟩ := plain_of_stringBody hbody
    exact ⟨hplain, hlex⟩
  induction names with
  | nil =>
    intro name depth s ts h n hn
    simp only [rawNames, List.append_assoc, List.cons_append, List.nil_append] at h
    rw [List.mem_singleton] at hn
    rw [hn]
    exact (hfirst name depth s ts h).1
  | cons next names ih =>
    intro name depth s ts h
    simp only [rawNames, List.append_assoc, List.cons_append] at h
    obtain ⟨hplain, hlex⟩ := hfirst name depth _ _ h
    rw [lex_comma, lex_space] at hlex
    obtain ⟨ts', hrest, heq⟩ := Option.map_eq_some_iff.mp hlex
    have htail : ts' = nameTokens next names ++ ts := by
      simpa [nameTokens] using heq
    rw [htail] at hrest
    intro n hn
    rcases List.mem_cons.mp hn with rfl | hn
    · exact hplain
    · exact ih next depth s ts hrest n hn

/-- The part of the expression before the names, and its tokens. -/
def namesHead : Expr := .dollar (.call (.sym "getOption") [(none, .str "rho.bridge.env")]) "rho_list_package_functions"

/-- The part of the expression after the names. -/
def namesTail (limit : Nat) : List Char :=
  ')' :: ',' :: ' ' :: (nameText (some "limit") ++ ((toString limit).toList ++ [')']))

theorem listPackageFunctions_toList (packages : List String) (limit : Nat) :
    ∃ name names, packageLiterals packages = name :: names ∧
      (listPackageFunctions packages limit).expression.toList =
        namesHead.text ++ '(' :: (nameText (some "packages") ++ ("c".toList ++ '(' :: '"' ::
          (rawNames name names ++ namesTail limit))) := by
  have htext : ∀ name names, "\", \"".intercalate packages = "\", \"".intercalate (name :: names) →
      (listPackageFunctions packages limit).expression.toList =
        namesHead.text ++ '(' :: (nameText (some "packages") ++ ("c".toList ++ '(' :: '"' ::
          (rawNames name names ++ namesTail limit))) := by
    intro name names h
    rw [expression, namesHead, bridgeFunction_text, rawNames_eq, h]
    simp only [String.toList_append, namesTail, nameText, List.append_assoc, List.cons_append, List.nil_append]
    simp only [String.reduceToList, List.cons_append, List.nil_append]
  cases packages with
  | nil => exact ⟨"", [], rfl, htext "" [] (by simp)⟩
  | cons name names => exact ⟨name, names, rfl, htext name names rfl⟩

theorem lex_namesTail (limit : Nat) : lex 2 (namesTail limit) =
      some [Token.rparen, Token.comma, Token.ident "limit", Token.eq, Token.num (toString limit), Token.rparen] := by
  rw [namesTail, lex_rparen, lex_comma, lex_space, lex_nameText (by decide),
    lex_num (isNumber_toString limit).1 (stops_cons (by decide) _), lex_rparen, lex_nil]
  rfl

theorem lex_namesHead (s : List Char) :
    lex 0 (namesHead.text ++ '(' :: (nameText (some "packages") ++ ("c".toList ++ '(' :: s))) =
      before true (namesHead.tokens ++ [Token.lparen, Token.ident "packages", Token.eq, Token.ident "c", Token.lparen])
        (lex 2 s) := by
  have hclean : namesHead.clean = true := by decide
  rw [lex_text namesHead 0 _ (by decide) (stops_cons (by decide) _), lex_lparen, lex_nameText (by decide),
    lex_ident (Or.inl (by decide)) (stops_cons (by decide) _), lex_lparen, hclean]
  simp only [map_cons_eq_before, before_before]
  rfl

theorem tokens_listPackageFunctions (packages : List String) (limit : Nat) (name : String) (names : List String)
    (h : packageLiterals packages = name :: names) : (listPackageFunctions packages limit).call.tokens =
      namesHead.tokens ++ [Token.lparen, Token.ident "packages", Token.eq, Token.ident "c", Token.lparen] ++
        (nameTokens name names ++
          [Token.rparen, Token.comma, Token.ident "limit", Token.eq, Token.num (toString limit), Token.rparen]) := by
  have hmore : ∀ values : List String, Expr.moreTokens (values.map fun s => (none, .str s)) =
      values.flatMap (fun n => [Token.comma, Token.str n]) ++ [Token.rparen] := by
    intro values
    induction values with
    | nil => rfl
    | cons s values ih => simp [Expr.moreTokens, RLang.nameTokens, Expr.tokens, ih]
  rw [call, h, bridgeCall, ← namesHead, Expr.tokens]
  simp [literals, Expr.tokens, hmore, RLang.nameTokens, Expr.moreTokens, nameTokens]

/-- The request for package functions is read as intended exactly when every name is plain. -/
theorem read_listPackageFunctions (packages : List String) (limit : Nat) :
    read (listPackageFunctions packages limit).expression = some (listPackageFunctions packages limit).call ↔
      ∀ p ∈ packages, p.toList.all isPlain = true := by
  obtain ⟨name, names, hlit, htext⟩ := listPackageFunctions_toList packages limit
  have hplain : (∀ p ∈ packages, p.toList.all isPlain = true) ↔ ∀ n ∈ name :: names, n.toList.all isPlain = true := by
    rw [← hlit, packageLiterals]
    cases packages with
    | nil => simp
    | cons p packages => simp
  rw [hplain]
  constructor
  · intro h
    have htokens := tokens_of_read h
    rw [htext, lex_namesHead, tokens_listPackageFunctions packages limit name names hlit, before, if_pos rfl] at htokens
    obtain ⟨ts, hts, heq⟩ := Option.map_eq_some_iff.mp htokens
    rw [List.append_cancel_left heq] at hts
    exact plain_of_lex_rawNames names name 2 _ _ hts
  · intro h
    refine read_of_tokens (wf_call _) ?_
    rw [htext, lex_namesHead, tokens_listPackageFunctions packages limit name names hlit, lex_rawNames names name 2 _ h,
      lex_namesTail, before_before]
    simp [before]

end BridgeAux

open BridgeAux

/-! ## When a request is read as intended -/

/-- The bridge functions that a request can call. -/
def bridgeFunctions : List String :=
  ["rho_execute", "rho_workspace_snapshot", "rho_inspect_object", "rho_inspect_data_object", "rho_list_package_functions",
    "rho_function_help", "rho_function_documentation", "rho_lint_file", "rho_format_r_source", "rho_inspect_targets",
    "rho_list_installed_packages", "rho_list_lockfile_packages", "rho_find_function_definition", "rho_find_project_references",
    "rho_discover_chunks", "rho_read_data_view", "rho_render_document", "rho_environment_operation"]

/-- An argument that executes nothing of the caller's: a literal, the global environment, or vectors of literals. -/
inductive InertArgument : Expr → Prop where
  | null : InertArgument .null
  | num (text : String) : InertArgument (.num text)
  | str (value : String) : InertArgument (.str value)
  | globalEnv : InertArgument (.sym ".GlobalEnv")
  | vector (values : List String) : InertArgument (literals values)
  | named (values names : List String) :
      InertArgument (.call (.ns "stats" "setNames") [(none, literals values), (none, literals names)])

/-- One call of a bridge function with inert arguments. -/
def InertCall (e : Expr) : Prop := ∃ fn ∈ bridgeFunctions, ∃ args, e = bridgeCall fn args ∧ ∀ a ∈ args, InertArgument a.2

/-- The request's expression is read by R as the one call of a bridge function that the request stands for, in which the caller's
strings are values of string literals. -/
def ReadsAsIntended (requestType : String) (arguments : Json) (expr : String) : Prop :=
  ∃ request, decodeRequest requestType arguments = .ok request ∧ InertCall request.call ∧ read expr = some request.call

/-- No string passed holds the null character, and no package name a quote or a backslash. -/
def PassesSafely (request : BridgeRequest) : Prop :=
  (∀ s ∈ request.strings, '\x00' ∉ s.toList) ∧
  ∀ packages limit, request = .listPackageFunctions packages limit → ∀ p ∈ packages, '"' ∉ p.toList ∧ '\\' ∉ p.toList

namespace BridgeAux

theorem inert_optionLiteral (o : Option String) : InertArgument (optionLiteral o) := by
  cases o with
  | none => exact .null
  | some s => exact .str s

theorem inert_optionInteger (o : Option Nat) : InertArgument (optionInteger o) := by
  cases o with
  | none => exact .null
  | some n => exact .num _

theorem inert_repositoriesCall (repositories : Option (List (String × String))) :
    InertArgument (repositoriesCall repositories) := by
  match repositories with
  | none => exact .null
  | some [] => exact .null
  | some (entry :: entries) => exact .named _ _

/-- The intended call of a request is inert. -/
theorem inert_call (r : BridgeRequest) : InertCall r.call := by
  have hargs : ∀ (args : List (Option String × Expr)), args.Forall (fun a => InertArgument a.2) →
      ∀ a ∈ args, InertArgument a.2 := fun args h => List.forall_iff_forall_mem.mp h
  have hstr := InertArgument.str
  have hnum := InertArgument.num
  have henv := InertArgument.globalEnv
  cases r with
  | listPackageFunctions packages limit =>
    exact ⟨_, by decide, _, rfl, hargs _ ⟨.vector _, hnum _⟩⟩
  | functionHelp name package => exact ⟨_, by decide, _, rfl, hargs _ ⟨hstr _, inert_optionLiteral _⟩⟩
  | readDataView v =>
    exact ⟨_, by decide, _, rfl, hargs _ ⟨hstr _, hstr _, hstr _, hstr _, hnum _, hnum _, hnum _, hnum _,
      inert_optionLiteral _, inert_optionInteger _, inert_optionLiteral _, henv⟩⟩
  | renderDocument path format => exact ⟨_, by decide, _, rfl, hargs _ ⟨hstr _, inert_optionLiteral _, henv⟩⟩
  | environmentOperation a =>
    exact ⟨_, by decide, _, rfl, hargs _ ⟨hstr _, hstr _, inert_repositoriesCall _, inert_optionLiteral _,
      inert_optionLiteral _, inert_optionLiteral _⟩⟩
  | snapshot => exact ⟨_, by decide, _, rfl, hargs _ henv⟩
  | execute code => exact ⟨_, by decide, _, rfl, hargs _ ⟨hstr _, henv⟩⟩
  | inspectObject name => exact ⟨_, by decide, _, rfl, hargs _ ⟨hstr _, henv⟩⟩
  | inspectDataObject name => exact ⟨_, by decide, _, rfl, hargs _ ⟨hstr _, henv⟩⟩
  | functionDocumentation name package => exact ⟨_, by decide, _, rfl, hargs _ ⟨hstr _, hstr _⟩⟩
  | lintFile path version => exact ⟨_, by decide, _, rfl, hargs _ ⟨hstr _, hnum _⟩⟩
  | formatRSource source path version => exact ⟨_, by decide, _, rfl, hargs _ ⟨hstr _, hstr _, hnum _⟩⟩
  | inspectTargets root => exact ⟨_, by decide, _, rfl, hargs _ (hstr _)⟩
  | listInstalledPackages limit => exact ⟨_, by decide, _, rfl, hargs _ (hnum _)⟩
  | listLockfilePackages root limit => exact ⟨_, by decide, _, rfl, hargs _ ⟨hstr _, hnum _⟩⟩
  | findFunctionDefinition name root => exact ⟨_, by decide, _, rfl, hargs _ ⟨hstr _, hstr _⟩⟩
  | findProjectReferences name root limit => exact ⟨_, by decide, _, rfl, hargs _ ⟨hstr _, hstr _, hnum _⟩⟩
  | discoverChunks path limit => exact ⟨_, by decide, _, rfl, hargs _ ⟨hstr _, hnum _⟩⟩
  | setProjectRoot code => exact ⟨_, by decide, _, rfl, hargs _ ⟨hstr _, henv⟩⟩

theorem noNull_iff (l : List String) : l.all noNull = true ↔ ∀ s ∈ l, '\x00' ∉ s.toList := by
  simp [noNull]

/-- A request's expression is read as its call exactly when it passes its strings safely. -/
theorem read_expression (r : BridgeRequest) : read r.expression = some r.call ↔ PassesSafely r := by
  by_cases hlist : ∃ packages limit, r = .listPackageFunctions packages limit
  · obtain ⟨packages, limit, rfl⟩ := hlist
    rw [read_listPackageFunctions]
    simp only [PassesSafely, strings, List.all_eq_true, isPlain, Bool.and_eq_true, bne_iff_ne]
    constructor
    · intro h
      refine ⟨fun s hs hz => (h s hs _ hz).2 rfl, ?_⟩
      intro packages' limit' heq p hp
      obtain ⟨rfl, -⟩ := listPackageFunctions.inj heq
      exact ⟨fun hq => (h p hp _ hq).1.1 rfl, fun hb => (h p hp _ hb).1.2 rfl⟩
    · intro h p hp c hc
      obtain ⟨hq, hb⟩ := h.2 packages limit rfl p hp
      refine ⟨⟨?_, ?_⟩, ?_⟩
      · rintro rfl; exact hq hc
      · rintro rfl; exact hb hc
      · rintro rfl; exact h.1 p hp hc
  · have hne : ∀ packages limit, r ≠ .listPackageFunctions packages limit :=
      fun packages limit heq => hlist ⟨packages, limit, heq⟩
    have hread : read r.expression = some r.call ↔ r.call.clean = true := by
      by_cases hq : Quoted r
      · exact read_text (wf_call r) (expression_toList hq)
      · cases r with
        | environmentOperation a => exact read_linesText (wf_call (.environmentOperation a)) (environmentOperation_toList a)
        | listPackageFunctions packages limit => exact absurd rfl (hne packages limit)
        | _ => exact absurd trivial hq
    rw [hread, clean_call hne, noNull_iff]
    constructor
    · intro h
      exact ⟨h, fun packages limit heq => absurd heq (hne packages limit)⟩
    · exact fun h => h.1

end BridgeAux

/-- Whenever an expression is written for a request, R reads it as the one inert call that the request stands for exactly when the
request passes its strings safely: no null character in any of them, and no quote or backslash in a package name whose functions
are to be listed. -/
theorem bridgeExpression_reads_iff (requestType : String) (arguments : Json) (cls : OperationClass) (expr : String)
    (h : bridgeExpression requestType arguments = .ok (cls, expr)) :
    ReadsAsIntended requestType arguments expr ↔
      ∀ request, decodeRequest requestType arguments = .ok request → PassesSafely request := by
  cases hd : decodeRequest requestType arguments with
  | error e =>
    rw [bridgeExpression, hd] at h
    cases h
  | ok request =>
    rw [bridgeExpression, hd] at h
    cases h
    constructor
    · rintro ⟨request', hd', -, hread⟩ request'' hd''
      rw [hd] at hd'
      cases hd'
      cases hd''
      exact (read_expression _).mp hread
    · intro hall
      exact ⟨request, hd, inert_call request, (read_expression request).mpr (hall request rfl)⟩

/-- A request to execute code: the code is the value of a string literal. -/
theorem bridgeExpression_reads_iff_execute :
    ∃ expr, bridgeExpression "workspace.execute" (.obj [("code", .str "cat(\"a\\n\")")]) = .ok (.stateCapable, expr) ∧
      ReadsAsIntended "workspace.execute" (.obj [("code", .str "cat(\"a\\n\")")]) expr := by
  have hdecode : decodeRequest "workspace.execute" (.obj [("code", .str "cat(\"a\\n\")")]) =
      .ok (.execute "cat(\"a\\n\")") := rfl
  refine ⟨_, rfl, (bridgeExpression_reads_iff "workspace.execute" (.obj [("code", .str "cat(\"a\\n\")")]) .stateCapable _
    rfl).mpr ?_⟩
  intro request hreq
  rw [hdecode] at hreq
  cases hreq
  constructor
  · intro s hs
    rw [BridgeRequest.strings, List.mem_singleton] at hs
    rw [hs]
    decide
  · intro packages limit heq
    cases heq

/-- A request that lists the functions of one package, and executes another call of the caller's choosing. -/
theorem bridgeExpression_injects :
    let arguments : Json := .obj [("packages", .arr [.str "x\"), system(\"touch /tmp/pwned"])]
    ∃ expr, bridgeExpression "workspace.list_package_functions" arguments = .ok (.probe, expr) ∧
      read expr = some (bridgeCall "rho_list_package_functions"
        [(some "packages", literals ["x"]), (none, .call (.sym "system") [(none, .str "touch /tmp/pwned")]),
          (some "limit", .num "500")]) ∧
      ¬ReadsAsIntended "workspace.list_package_functions" arguments expr := by
  refine ⟨_, rfl, read_of_tokens (by decide +kernel) (by decide +kernel), ?_⟩
  rintro ⟨request, hdecode, -, hread⟩
  cases hdecode
  have hsafe := (read_expression _).mp hread
  have hquote := (hsafe.2 _ _ rfl "x\"), system(\"touch /tmp/pwned" List.mem_cons_self).1
  exact hquote (by decide)

/-! ## One literal -/

/-- The text of a string without the null character is one string literal of R: it opens with a quote, the lexer reads the string
from what comes after the quote and stops where the text does, and what follows is read as if it stood alone. -/
theorem r_string_is_one_literal (value : String) (rest : List Char) (h : '\x00' ∉ value.toList) :
    (∃ body, (rString value).toList = '"' :: body ∧ stringBody (body ++ rest) = some (value.toList, rest)) ∧
      ∀ depth, lex depth ((rString value).toList ++ rest) = (lex depth rest).map (Token.str value :: ·) := by
  rw [BridgeAux.rString_toList]
  refine ⟨⟨_, rfl, ?_⟩, fun depth => ?_⟩
  · rw [List.append_assoc, List.singleton_append, stringBody_flatMap, if_neg h]
  · rw [lex_quote, if_neg (by simpa using h)]

/-- A call is not closed by a quote and a parenthesis in the code. -/
theorem r_string_is_one_literal_code :
    (∃ body, (rString "a\"); q(\n").toList = '"' :: body ∧
        stringBody (body ++ ")".toList) = some ("a\"); q(\n".toList, ")".toList)) ∧
      ∀ depth, lex depth ((rString "a\"); q(\n").toList ++ ")".toList) =
        (lex depth ")".toList).map (Token.str "a\"); q(\n" :: ·) :=
  r_string_is_one_literal "a\"); q(\n" ")".toList (by decide)

end Rho
