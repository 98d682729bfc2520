import EngineBridge.Error
import EngineBridge.Text.Quoted

/-!
# Symbol sources

Where the addresses of exports come from.  A table of addresses is resolved as a whole or
not at all: the first export that is missing, in the order of the exports, is reported.
-/

set_option autoImplicit false

namespace EngineBridge

/-- Something in which the addresses of exports, of type `α`, can be looked up. -/
structure SymbolSource (α : Type) where
  /-- The name of the source in messages. -/
  description : String
  lookup : String → Option α

/-- The address of every export that is used. -/
structure SymbolTable (α : Type) where
  entries : List (Symbol × α)

namespace SymbolTable

variable {α : Type}

/-- The address of an export. -/
def address? (table : SymbolTable α) (symbol : Symbol) : Option α :=
  table.entries.lookup symbol

/-- The addresses of some exports, unless one of them is missing. -/
def collect (source : SymbolSource α) :
    List Symbol → Except InfrastructureError (List (Symbol × α))
  | [] => .ok []
  | symbol :: rest =>
    match source.lookup symbol.name with
    | none => .error (.missingSymbol symbol source.description)
    | some address => (collect source rest).map ((symbol, address) :: ·)

/-- Resolve all exports. -/
def resolve (source : SymbolSource α) : Except InfrastructureError (SymbolTable α) :=
  (collect source Symbol.all).map SymbolTable.mk

end SymbolTable

/-- The address of an export: the library that it is in, and its name there. -/
structure Address where
  library : String
  exported : String
deriving DecidableEq

/-- A source whose exports are listed. -/
def SymbolSource.ofExports (name : String) (exports : List String) : SymbolSource Address where
  description := name
  lookup exported := if exported ∈ exports then some ⟨name, exported⟩ else none

/-- The functions of the engine that is built in, each after the name that it is looked up
by. -/
def bundledFunctions : List (String × Symbol) :=
  [("sqlite3_open_v2", .openV2), ("sqlite3_close_v2", .closeV2), ("sqlite3_errmsg", .errmsg),
   ("sqlite3_errstr", .errstr), ("sqlite3_libversion", .libversion), ("sqlite3_exec", .exec),
   ("sqlite3_prepare_v2", .prepareV2), ("sqlite3_step", .step), ("sqlite3_reset", .reset),
   ("sqlite3_finalize", .finalize), ("sqlite3_clear_bindings", .clearBindings),
   ("sqlite3_bind_parameter_count", .bindParameterCount), ("sqlite3_bind_null", .bindNull),
   ("sqlite3_bind_int", .bindInt), ("sqlite3_bind_int64", .bindInt64),
   ("sqlite3_bind_double", .bindDouble), ("sqlite3_bind_text", .bindText),
   ("sqlite3_bind_blob", .bindBlob), ("sqlite3_column_count", .columnCount),
   ("sqlite3_column_type", .columnType), ("sqlite3_column_name", .columnName),
   ("sqlite3_column_table_name", .columnTableName), ("sqlite3_column_decltype", .columnDecltype),
   ("sqlite3_column_text", .columnText), ("sqlite3_column_blob", .columnBlob),
   ("sqlite3_column_double", .columnDouble), ("sqlite3_column_int", .columnInt),
   ("sqlite3_column_int64", .columnInt64), ("sqlite3_column_bytes", .columnBytes),
   ("sqlite3_busy_handler", .busyHandler), ("sqlite3_busy_timeout", .busyTimeout),
   ("sqlite3_create_function_v2", .createFunctionV2), ("sqlite3_user_data", .userData),
   ("sqlite3_value_type", .valueType), ("sqlite3_value_int64", .valueInt64),
   ("sqlite3_value_double", .valueDouble), ("sqlite3_value_text", .valueText),
   ("sqlite3_value_blob", .valueBlob), ("sqlite3_value_bytes", .valueBytes),
   ("sqlite3_result_null", .resultNull), ("sqlite3_result_text", .resultText),
   ("sqlite3_result_blob", .resultBlob), ("sqlite3_result_double", .resultDouble),
   ("sqlite3_result_int", .resultInt), ("sqlite3_result_int64", .resultInt64),
   ("sqlite3_result_error", .resultError), ("sqlite3_limit", .limit),
   ("sqlite3_interrupt", .interrupt), ("sqlite3_changes", .changes),
   ("sqlite3_total_changes", .totalChanges), ("sqlite3_enable_shared_cache", .enableSharedCache),
   ("sqlite3_enable_load_extension", .enableLoadExtension)]

/-- The engine that is built in. -/
def bundledEngine : SymbolSource Address where
  description := "bundled"
  lookup exported := (bundledFunctions.lookup exported).map fun function =>
    ⟨"bundled", function.name⟩

/-- A source without some of its exports, under another name. -/
def SymbolSource.without {α : Type} (source : SymbolSource α) (name : String)
    (missing : List String) : SymbolSource α where
  description := name
  lookup exported := if exported ∈ missing then none else source.lookup exported

end EngineBridge
