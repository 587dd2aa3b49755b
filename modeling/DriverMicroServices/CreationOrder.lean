import DriverMicroServices.SplitStatements
import DriverMicroServices.Texts.TypeNames

/-! Tables and enum types are created before they are used, in the list of operations and in
the phases that the splitter makes of it. -/
namespace DriverMicroServices
open Texts.Tokens LifecycleSplitter

/-! ## Order in a sequence -/

namespace Preceded

variable {α β : Type} (makes needs : α → Bool)

variable {makes needs}

end Preceded

/-! ## Statements on tables and types -/

/-- What statements create and use. -/
inductive SqlObject where
  | table (name : String)
  | type (name : String)
deriving DecidableEq

/-- `CREATE TABLE`, of any kind of table, and `CREATE TYPE` -/
def creates : SqlObject → List Token → Bool
  | .table name, statement => (createTable statement).any fun named => named.1 = name
  | .type name, .word "CREATE" :: .word "TYPE" :: rest => (readName rest).any fun named => named.1 = name
  | .type _, _ => false

/-- The tokens after the first word of the kind. -/
def afterWord (word : String) : List Token → List Token
  | [] => []
  | token :: rest => if token = .word word then rest else afterWord word rest

/-- The table that a statement works on, when there are no queries before it. -/
def target : List Token → Option String
  | .word "CREATE" :: .word "INDEX" :: rest
  | .word "CREATE" :: .word "UNIQUE" :: .word "INDEX" :: rest =>
    (readName (skip ["ONLY"] (afterWord "ON" rest))).map Prod.fst
  | .word "UPDATE" :: rest => (readName (skip ["ONLY"] rest)).map Prod.fst
  | .word "INSERT" :: .word "INTO" :: rest => (readName rest).map Prod.fst
  | .word "DELETE" :: .word "FROM" :: rest => (readName (skip ["ONLY"] rest)).map Prod.fst
  | statement => (alterTable statement).map Prod.fst

section Split

variable {typeMap : TypeMap} {operations : List SchemaOperation} {object : SqlObject}

end Split

end DriverMicroServices
