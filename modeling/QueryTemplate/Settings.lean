import QueryTemplate.Text.Basic

/-!
The settings of an installation, read from the environment. What is not set has a default.
-/

namespace QueryTemplate

/-- Where an installation connects, where it keeps its audit trail, and whether it logs queries. -/
structure Settings where
  url : Text
  auditFile : Text
  debug : Bool
  deriving DecidableEq, Repr

namespace Settings

/-- The spellings of yes. Case does not count, and no character beyond ASCII has one of their
letters as its small form. -/
def truths : List Text := ["1".toList, "true".toList, "yes".toList]

def ofEnvironment (get : String → Option Text) : Settings where
  url := (get "SQLTEMPLATE_CONN_STR").getD
    "mysql+pymysql://root@localhost:3306/sqltemplate".toList
  auditFile := (get "SQLTEMPLATE_AUDIT_DB").getD "audit.db".toList
  debug := truths.contains (Text.toLower ((get "SQLTEMPLATE_DEBUG").getD []))

end Settings

end QueryTemplate
