import Mathlib.Data.List.Sort
import Rho.Lib.Json
import Rho.Server.Protocol

/-!
# The R expression of a request

`bridge_expression`: the arguments of a request are decoded and checked, and the R source that calls the bridge is written with
them. Each branch of the source is a constructor of `BridgeRequest`: `decodeRequest` is the part that reads the arguments, and
`BridgeRequest.operationClass` and `BridgeRequest.expression` are what it returns.
-/

namespace Rho

/-! ## Checks of the arguments -/

/-- `char::is_control`. -/
def isControl (c : Char) : Bool := decide (c.toNat < 32) || (decide (127 ≤ c.toNat) && decide (c.toNat < 160))

/-- The white space that `str::trim` removes. -/
def isWhiteSpace (c : Char) : Bool :=
  (decide (9 ≤ c.toNat) && decide (c.toNat ≤ 13)) || c == ' ' || decide (c.toNat = 0x85) || decide (c.toNat = 0xA0) ||
    decide (c.toNat = 0x1680) || (decide (0x2000 ≤ c.toNat) && decide (c.toNat ≤ 0x200A)) || decide (c.toNat = 0x2028) ||
    decide (c.toNat = 0x2029) || decide (c.toNat = 0x202F) || decide (c.toNat = 0x205F) || decide (c.toNat = 0x3000)

/-- `str::trim`. -/
def trim (s : String) : String :=
  String.ofList (((s.toList.dropWhile isWhiteSpace).reverse.dropWhile isWhiteSpace).reverse)

/-- The segments between slashes of either kind. -/
def pathSegments : List Char → List (List Char)
  | [] => [[]]
  | c :: s =>
    if c = '/' ∨ c = '\\' then [] :: pathSegments s
    else
      match pathSegments s with
      | seg :: rest => (c :: seg) :: rest
      | [] => [[c]]

/-- `ensure!`: the message when the condition fails. -/
def ensure (condition : Bool) (message : String) : Except String Unit := if condition then .ok () else .error message

/-- `.context(..)` on an option: the message when there is no value. -/
def orError {α : Type} (value : Option α) (message : String) : Except String α :=
  match value with
  | some v => .ok v
  | none => .error message

def validateEnvironmentPackageName (package : String) : Except String Unit := do
  ensure (!package.isEmpty && decide (package.utf8ByteSize ≤ 128)) "Package must contain 1 to 128 ASCII characters"
  ensure (match package.toList with
    | c :: s => c.isAlpha && s.all (fun c => c.isAlphanum || c == '.')
    | [] => false) "Package must be one valid R package name"

def validateLocalHelpLookup (name : String) (package : Option String) : Except String Unit := do
  ensure (!name.isEmpty && decide (name.utf8ByteSize ≤ 128) && !name.toList.any isControl)
    "Help name must contain 1 to 128 UTF-8 bytes without control characters"
  if let some package := package then
    match validateEnvironmentPackageName package with
    | .ok () => pure ()
    | .error _ => throw "invalid Help package"

def validateProjectRelativeRSourcePath (path label : String) : Except String Unit := do
  ensure (!path.isEmpty && decide (path.utf8ByteSize ≤ 1000) && !path.toList.any isControl)
    (label ++ " path must contain 1 to 1000 UTF-8 bytes without control characters")
  ensure (path.toList.head? != some '/' && path.toList.head? != some '\\' && !path.toList.contains ':' &&
      (pathSegments path.toList).all (fun seg => !seg.isEmpty && seg != ['.'] && seg != ['.', '.']))
    (label ++ " path must be project-relative")
  ensure (path.toList.reverse.take 2 == ['r', '.'] || path.toList.reverse.take 2 == ['R', '.'])
    (label ++ " path must identify one R file")

/-! ## Requests -/

/-- The arguments of an environment operation. The repositories are a map from names to addresses. -/
structure EnvironmentOperationArguments where
  operation : String
  projectRoot : Option String
  repositories : Option (List (String × String))
  bioconductor : Option String
  package : Option String
  projectLibrary : Option String
  deriving DecidableEq, Repr

structure DataViewRequest where
  objectName : String
  viewToken : String
  viewKind : String
  viewKey : String
  rowOffset : Nat
  rowLimit : Nat
  columnOffset : Nat
  columnLimit : Nat
  query : Option String
  sortColumn : Option Nat
  sortDirection : Option String
  deriving DecidableEq, Repr

/-- A request whose arguments have been decoded, one constructor for each branch. -/
inductive BridgeRequest where
  | execute (code : String)
  | snapshot
  | inspectObject (name : String)
  | inspectDataObject (objectName : String)
  | listPackageFunctions (packages : List String) (limit : Nat)
  | functionHelp (name : String) (package : Option String)
  | functionDocumentation (name package : String)
  | lintFile (path : String) (documentVersion : Nat)
  | formatRSource (source path : String) (documentVersion : Nat)
  | inspectTargets (root : String)
  | listInstalledPackages (limit : Nat)
  | listLockfilePackages (root : String) (limit : Nat)
  | findFunctionDefinition (name root : String)
  | findProjectReferences (name root : String) (limit : Nat)
  | discoverChunks (path : String) (limit : Nat)
  | readDataView (view : DataViewRequest)
  | renderDocument (path : String) (format : Option String)
  | environmentOperation (arguments : EnvironmentOperationArguments)
  | setProjectRoot (code : String)
  deriving DecidableEq, Repr

/-! ## Decoding the arguments -/

/-- `arguments[key].as_str()`. -/
def stringArgument (arguments : Json) (key : String) : Option String := (arguments.get key).bind Json.asStr

/-- A required string argument. -/
def requireString (requestType : String) (arguments : Json) (key : String) : Except String String :=
  orError (stringArgument arguments key) (requestType ++ " requires string argument " ++ "\x60" ++ key ++ "\x60")

/-- `arguments.get(key).and_then(as_u64).unwrap_or(default)`. -/
def u64Argument (arguments : Json) (key : String) (default : Nat) : Nat :=
  ((arguments.get key).bind Json.asU64).getD default

/-- The document version: an integer of the non-negative 32-bit range. -/
def documentVersion (requestType : String) (arguments : Json) : Except String Int :=
  orError ((arguments.get "document_version").bind Json.asI64)
    (requestType ++ " requires integer argument " ++ "\x60" ++ "document_version" ++ "\x60")

def validDocumentVersion (requestType : String) (version : Int) : Except String Unit :=
  ensure (decide (0 ≤ version) && decide (version ≤ 2 ^ 31 - 1)) (requestType ++ " requires a non-negative document version")

/-- The search text of a data view, trimmed; none when it is absent, null or empty. -/
def dataViewQuery (arguments : Json) : Except String (Option String) :=
  match arguments.get "query" with
  | none | some .null => .ok none
  | some (.str value) =>
    let value := trim value
    if 256 < value.utf8ByteSize ∨ value.toList.any (fun c => c == '\x00' || c == '\r' || c == '\n') then
      .error "workspace.read_data_view query must be at most 256 UTF-8 bytes without NUL or newline controls"
    else .ok (if value.isEmpty then none else some value)
  | some _ => .error "workspace.read_data_view optional argument \x60query\x60 must be a string or null"

def dataViewSortColumn (arguments : Json) : Except String (Option Nat) :=
  match arguments.get "sort_column" with
  | none | some .null => .ok none
  | some value =>
    match value.asU64 with
    | some n => .ok (some n)
    | none =>
      .error "workspace.read_data_view optional argument \x60sort_column\x60 must be a non-negative integer or null"

def dataViewSortDirection (arguments : Json) : Except String (Option String) :=
  match arguments.get "sort_direction" with
  | none | some .null => .ok none
  | some (.str value) =>
    if value = "asc" ∨ value = "desc" then .ok (some value)
    else .error "workspace.read_data_view optional argument \x60sort_direction\x60 must be \x60asc\x60, \x60desc\x60, or null"
  | some _ =>
    .error "workspace.read_data_view optional argument \x60sort_direction\x60 must be \x60asc\x60, \x60desc\x60, or null"

def decodeDataView (arguments : Json) : Except String DataViewRequest := do
  let requestType := "workspace.read_data_view"
  let objectName ← requireString requestType arguments "object_name"
  let viewToken ← requireString requestType arguments "view_token"
  let viewKind ← requireString requestType arguments "view_kind"
  let viewKey ← requireString requestType arguments "view_key"
  let query ← dataViewQuery arguments
  let sortColumn ← dataViewSortColumn arguments
  let sortDirection ← dataViewSortDirection arguments
  ensure (sortColumn.isSome == sortDirection.isSome)
    "workspace.read_data_view sort_column and sort_direction must be provided together"
  return {
    objectName, viewToken, viewKind, viewKey
    rowOffset := u64Argument arguments "row_offset" 0
    rowLimit := u64Argument arguments "row_limit" 50
    columnOffset := u64Argument arguments "column_offset" 0
    columnLimit := u64Argument arguments "column_limit" 20
    query, sortColumn, sortDirection }

/-- The operation that an environment request asks for. -/
def environmentOperationOf (requestType : String) : Option String :=
  if requestType = "environment.initialize" then some "initialize"
  else if requestType = "environment.restore" then some "restore"
  else if requestType = "environment.snapshot" then some "snapshot"
  else if requestType = "environment.package_install" then some "install_package"
  else if requestType = "environment.package_update" then some "update_package"
  else if requestType = "environment.package_remove" then some "remove_package"
  else none

/-- An object whose values are all strings, as a map. -/
def stringMap : Json → Option (List (String × String))
  | .obj fields => fields.mapM (fun f => f.2.asStr.map (fun v => (f.1, v)))
  | _ => none

def decodeRepositories (arguments : Json) : Except String (Option (List (String × String))) :=
  match arguments.get "repositories" with
  | none | some .null => .ok none
  | some value =>
    match stringMap value with
    | some repositories => .ok (some repositories)
    | none => .error "decoding environment operation repositories"

def decodeEnvironmentOperation (operation : String) (arguments : Json) : Except String EnvironmentOperationArguments := do
  let repositories ← decodeRepositories arguments
  return {
    operation := operation
    projectRoot := stringArgument arguments "project_root"
    repositories := repositories
    bioconductor := stringArgument arguments "bioconductor"
    package := stringArgument arguments "package"
    projectLibrary := stringArgument arguments "project_library" }

/-- The arguments of `bridge_expression`, decoded and checked. -/
def decodeRequest (requestType : String) (arguments : Json) : Except String BridgeRequest :=
  if requestType = "workspace.execute" then do
    return .execute (← requireString requestType arguments "code")
  else if requestType = "workspace.snapshot" then .ok .snapshot
  else if requestType = "workspace.inspect_object" then do
    return .inspectObject (← requireString requestType arguments "name")
  else if requestType = "workspace.inspect_data_object" then do
    return .inspectDataObject (← requireString requestType arguments "object_name")
  else if requestType = "workspace.list_package_functions" then
    .ok (.listPackageFunctions ((((arguments.get "packages").bind Json.asArray).getD []).filterMap Json.asStr)
      (u64Argument arguments "limit" 500))
  else if requestType = "workspace.function_help" then do
    let name ← requireString requestType arguments "name"
    let package := (stringArgument arguments "package").filter (fun s => !s.isEmpty)
    validateLocalHelpLookup name package
    return .functionHelp name package
  else if requestType = "workspace.function_documentation" then do
    let name ← requireString requestType arguments "name"
    let package ← requireString requestType arguments "package"
    validateLocalHelpLookup name (some package)
    return .functionDocumentation name package
  else if requestType = "workspace.lint_file" then do
    let path ← requireString requestType arguments "path"
    let version ← documentVersion requestType arguments
    validateProjectRelativeRSourcePath path "Lint"
    validDocumentVersion requestType version
    return .lintFile path version.toNat
  else if requestType = "workspace.format_r_source" then do
    let source ← requireString requestType arguments "source"
    let path ← requireString requestType arguments "path"
    let version ← documentVersion requestType arguments
    validateProjectRelativeRSourcePath path "Formatting"
    ensure (decide (source.utf8ByteSize ≤ 1024 * 1024)) "Formatting source must be at most 1 MiB"
    ensure (!source.toList.contains '\x00') "Formatting source must not contain NUL bytes"
    validDocumentVersion requestType version
    return .formatRSource source path version.toNat
  else if requestType = "workspace.inspect_targets" then do
    return .inspectTargets (← requireString requestType arguments "project_root")
  else if requestType = "workspace.list_installed_packages" then
    .ok (.listInstalledPackages (u64Argument arguments "limit" 500))
  else if requestType = "workspace.list_lockfile_packages" then do
    return .listLockfilePackages (← requireString requestType arguments "project_root")
      (max 1 (min 500 (u64Argument arguments "limit" 500)))
  else if requestType = "workspace.find_function_definition" then do
    return .findFunctionDefinition (← requireString requestType arguments "name")
      (← requireString requestType arguments "project_root")
  else if requestType = "workspace.find_project_references" then do
    let name ← requireString requestType arguments "name"
    let root ← requireString requestType arguments "project_root"
    validateLocalHelpLookup name none
    ensure (!root.isEmpty && decide (root.utf8ByteSize ≤ 1000) && !root.toList.any isControl)
      "reference project root must contain 1 to 1000 UTF-8 bytes without control characters"
    return .findProjectReferences name root (max 1 (min 200 (u64Argument arguments "limit" 100)))
  else if requestType = "workspace.discover_chunks" then do
    return .discoverChunks (← requireString requestType arguments "path") (u64Argument arguments "limit" 200)
  else if requestType = "workspace.read_data_view" then do
    return .readDataView (← decodeDataView arguments)
  else if requestType = "workspace.render_document" then do
    return .renderDocument (← requireString requestType arguments "path") (stringArgument arguments "format")
  else if requestType = "workspace.set_project_root" then do
    return .setProjectRoot (← requireString requestType arguments "code")
  else
    match environmentOperationOf requestType with
    | some operation => do return .environmentOperation (← decodeEnvironmentOperation operation arguments)
    | none => .error ("unsupported Agent R request type: " ++ requestType)

/-! ## Writing the expression -/

/-- `r_string`: a string as JSON quotes it. -/
def rString (value : String) : String := Json.toText (.str value)

/-- A string, or `NULL`. -/
def rOptionString : Option String → String
  | some value => rString value
  | none => "NULL"

/-- The expressions of several strings, with a comma between them. -/
def rStrings (values : List String) : String := ", ".intercalate (values.map rString)

def bridgeEnv : String := "getOption(\"rho.bridge.env\")"

/-- The repositories in the order of their names. -/
def sortedRepositories (repositories : List (String × String)) : List (String × String) :=
  repositories.insertionSort (fun a b => a.1 ≤ b.1)

def environmentRepositoriesExpression (repositories : Option (List (String × String))) : String :=
  match repositories with
  | some (entry :: entries) =>
    let entries := sortedRepositories (entry :: entries)
    "stats::setNames(c(" ++ rStrings (entries.map (·.2)) ++ "), c(" ++ rStrings (entries.map (·.1)) ++ "))"
  | _ => "NULL"

def environmentOperationBridgeExpression (a : EnvironmentOperationArguments) : String :=
  bridgeEnv ++ "$rho_environment_operation(\n  operation = " ++ rString a.operation ++
    ",\n  project_dir = " ++ rString (a.projectRoot.getD "") ++
    ",\n  repositories = " ++ environmentRepositoriesExpression a.repositories ++
    ",\n  bioconductor = " ++ rOptionString a.bioconductor ++
    ",\n  package = " ++ rOptionString a.package ++
    ",\n  project_library = " ++ rOptionString a.projectLibrary ++ "\n)"

def environmentOperationIsPackage (operation : String) : Bool :=
  operation == "install_package" || operation == "update_package" || operation == "remove_package"

/-- An integer, or `NULL`. -/
def rOptionInteger : Option Nat → String
  | some value => toString value ++ "L"
  | none => "NULL"

def dataViewExpression (v : DataViewRequest) : String :=
  bridgeEnv ++ "$rho_read_data_view(object_name = " ++ rString v.objectName ++ ", view_token = " ++ rString v.viewToken ++
    ", view_kind = " ++ rString v.viewKind ++ ", view_key = " ++ rString v.viewKey ++
    ", row_offset = " ++ toString v.rowOffset ++ ", row_limit = " ++ toString v.rowLimit ++
    ", column_offset = " ++ toString v.columnOffset ++ ", column_limit = " ++ toString v.columnLimit ++
    ", query = " ++ rOptionString v.query ++
    ", sort_column = " ++ rOptionInteger v.sortColumn ++
    ", sort_direction = " ++ rOptionString v.sortDirection ++ ", envir = .GlobalEnv)"

namespace BridgeRequest

def operationClass : BridgeRequest → OperationClass
  | execute _ => .stateCapable
  | renderDocument _ _ => .projectMutation
  | environmentOperation a => if environmentOperationIsPackage a.operation then .stateCapable else .projectMutation
  | setProjectRoot _ => .stateAndProjectMutation
  | _ => .probe

/-- The R source of a request. -/
def expression : BridgeRequest → String
  | execute code => bridgeEnv ++ "$rho_execute(" ++ rString code ++ ", envir = .GlobalEnv)"
  | snapshot => bridgeEnv ++ "$rho_workspace_snapshot(envir = .GlobalEnv)"
  | inspectObject name => bridgeEnv ++ "$rho_inspect_object(" ++ rString name ++ ", envir = .GlobalEnv)"
  | inspectDataObject objectName =>
    bridgeEnv ++ "$rho_inspect_data_object(" ++ rString objectName ++ ", envir = .GlobalEnv)"
  -- the names are put between quotes as they are
  | listPackageFunctions packages limit =>
    bridgeEnv ++ "$rho_list_package_functions(packages = c(\"" ++ "\", \"".intercalate packages ++ "\"), limit = " ++
      toString limit ++ ")"
  | functionHelp name package =>
    bridgeEnv ++ "$rho_function_help(" ++ rString name ++ ", package = " ++ rOptionString package ++ ")"
  | functionDocumentation name package =>
    bridgeEnv ++ "$rho_function_documentation(" ++ rString name ++ ", package = " ++ rString package ++ ")"
  | lintFile path version =>
    bridgeEnv ++ "$rho_lint_file(" ++ rString path ++ ", document_version = " ++ toString version ++ ")"
  | formatRSource source path version =>
    bridgeEnv ++ "$rho_format_r_source(source = " ++ rString source ++ ", path = " ++ rString path ++
      ", document_version = " ++ toString version ++ ")"
  | inspectTargets root => bridgeEnv ++ "$rho_inspect_targets(" ++ rString root ++ ")"
  | listInstalledPackages limit => bridgeEnv ++ "$rho_list_installed_packages(limit = " ++ toString limit ++ "L)"
  | listLockfilePackages root limit =>
    bridgeEnv ++ "$rho_list_lockfile_packages(" ++ rString root ++ ", limit = " ++ toString limit ++ "L)"
  | findFunctionDefinition name root =>
    bridgeEnv ++ "$rho_find_function_definition(" ++ rString name ++ ", " ++ rString root ++ ")"
  | findProjectReferences name root limit =>
    bridgeEnv ++ "$rho_find_project_references(" ++ rString name ++ ", " ++ rString root ++ ", limit = " ++
      toString limit ++ "L)"
  | discoverChunks path limit =>
    bridgeEnv ++ "$rho_discover_chunks(" ++ rString path ++ ", limit = " ++ toString limit ++ ")"
  | readDataView v => dataViewExpression v
  | renderDocument path format =>
    bridgeEnv ++ "$rho_render_document(" ++ rString path ++ ", format = " ++ rOptionString format ++ ", envir = .GlobalEnv)"
  | environmentOperation a => environmentOperationBridgeExpression a
  | setProjectRoot code => bridgeEnv ++ "$rho_execute(" ++ rString code ++ ", envir = .GlobalEnv)"

end BridgeRequest

/-- `bridge_expression`. -/
def bridgeExpression (requestType : String) (arguments : Json) : Except String (OperationClass × String) := do
  let request ← decodeRequest requestType arguments
  return (request.operationClass, request.expression)

end Rho
