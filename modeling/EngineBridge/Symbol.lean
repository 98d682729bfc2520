/-!
# Native symbols

The exports of the engine that are used, in the order in which they are resolved.
-/

set_option autoImplicit false

namespace EngineBridge

/-- An export of the engine. -/
inductive Symbol where
  | openV2 | closeV2 | errmsg | errstr | libversion | exec | prepareV2 | step | reset | finalize
  | clearBindings | bindParameterCount | bindNull | bindInt | bindInt64 | bindDouble | bindText
  | bindBlob | columnCount | columnType | columnName | columnTableName | columnDecltype
  | columnText | columnBlob | columnDouble | columnInt | columnInt64 | columnBytes | busyHandler
  | busyTimeout | createFunctionV2 | userData | valueType | valueInt64 | valueDouble | valueText
  | valueBlob | valueBytes | resultNull | resultText | resultBlob | resultDouble | resultInt
  | resultInt64 | resultError | limit | interrupt | changes | totalChanges | enableSharedCache
  | enableLoadExtension
deriving DecidableEq

namespace Symbol

/-- Every export that is used, in order. -/
def all : List Symbol :=
  [.openV2, .closeV2, .errmsg, .errstr, .libversion, .exec, .prepareV2, .step, .reset, .finalize,
   .clearBindings, .bindParameterCount, .bindNull, .bindInt, .bindInt64, .bindDouble, .bindText,
   .bindBlob, .columnCount, .columnType, .columnName, .columnTableName, .columnDecltype,
   .columnText, .columnBlob, .columnDouble, .columnInt, .columnInt64, .columnBytes, .busyHandler,
   .busyTimeout, .createFunctionV2, .userData, .valueType, .valueInt64, .valueDouble, .valueText,
   .valueBlob, .valueBytes, .resultNull, .resultText, .resultBlob, .resultDouble, .resultInt,
   .resultInt64, .resultError, .limit, .interrupt, .changes, .totalChanges, .enableSharedCache,
   .enableLoadExtension]

/-- The distinctive part of an export's name. -/
def stem : Symbol → String
  | .openV2 => "open_v2" | .closeV2 => "close_v2" | .errmsg => "errmsg" | .errstr => "errstr"
  | .libversion => "libversion" | .exec => "exec" | .prepareV2 => "prepare_v2" | .step => "step"
  | .reset => "reset" | .finalize => "finalize" | .clearBindings => "clear_bindings"
  | .bindParameterCount => "bind_parameter_count" | .bindNull => "bind_null"
  | .bindInt => "bind_int" | .bindInt64 => "bind_int64" | .bindDouble => "bind_double"
  | .bindText => "bind_text" | .bindBlob => "bind_blob" | .columnCount => "column_count"
  | .columnType => "column_type" | .columnName => "column_name"
  | .columnTableName => "column_table_name" | .columnDecltype => "column_decltype"
  | .columnText => "column_text" | .columnBlob => "column_blob"
  | .columnDouble => "column_double" | .columnInt => "column_int"
  | .columnInt64 => "column_int64" | .columnBytes => "column_bytes"
  | .busyHandler => "busy_handler" | .busyTimeout => "busy_timeout"
  | .createFunctionV2 => "create_function_v2" | .userData => "user_data"
  | .valueType => "value_type" | .valueInt64 => "value_int64" | .valueDouble => "value_double"
  | .valueText => "value_text" | .valueBlob => "value_blob" | .valueBytes => "value_bytes"
  | .resultNull => "result_null" | .resultText => "result_text" | .resultBlob => "result_blob"
  | .resultDouble => "result_double" | .resultInt => "result_int"
  | .resultInt64 => "result_int64" | .resultError => "result_error" | .limit => "limit"
  | .interrupt => "interrupt" | .changes => "changes" | .totalChanges => "total_changes"
  | .enableSharedCache => "enable_shared_cache"
  | .enableLoadExtension => "enable_load_extension"

/-- The name under which a symbol is exported. -/
def name (s : Symbol) : String := "sqlite3_" ++ s.stem

/-- The export with this distinctive part. -/
def ofStem? (stem : String) : Option Symbol :=
  all.find? (·.stem == stem)

/-- The names of all exports that are used, in order. -/
def names : List String := all.map name

/-- No export is missing from the list. -/
theorem mem_all (s : Symbol) : s ∈ all := by
  cases s <;> decide

end Symbol

end EngineBridge
