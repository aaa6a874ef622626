import TableTalk.Text.Lower
import TableTalk.Text.Search
import TableTalk.Text.Template

/-!
# Keyword rules

A rule turns a question that has the right words in it into a statement written beforehand, with the
name of the table filled in. The first rule that matches decides; where none does there is a default
statement.
-/

namespace TableTalk.Generation

open Text

structure Rule where
  template : String
  /-- Words that all have to occur. -/
  required : List String
  /-- Words of which one has to occur, if there are any. -/
  anyOf : List String
  deriving DecidableEq, Repr

namespace Rule

/-- Whether a question in lower case has the words of a rule in it. -/
def fits (r : Rule) (question : String) : Bool :=
  r.required.all (contains question) && (r.anyOf.isEmpty || r.anyOf.any (contains question))

end Rule

structure RuleBook where
  table : String
  rules : List Rule
  default : String
  deriving DecidableEq, Repr

namespace RuleBook

def defaultRules : List Rule := [
  ⟨"SELECT * FROM \x7btable\x7d LIMIT 100", ["all", "data"], []⟩,
  ⟨"SELECT * FROM \x7btable\x7d WHERE Variable_name = 'Total income' LIMIT 50",
    ["total income"], []⟩,
  ⟨"SELECT * FROM \x7btable\x7d WHERE Industry_name_NZSIOC LIKE '%Agriculture%' LIMIT 50",
    [], ["agriculture", "farming"]⟩,
  ⟨"SELECT * FROM \x7btable\x7d WHERE Variable_category = 'Financial performance' LIMIT 50",
    ["financial performance"], []⟩,
  ⟨"SELECT * FROM \x7btable\x7d WHERE Variable_category = 'Employment' LIMIT 50",
    ["employment"], []⟩,
  ⟨"SELECT Industry_name_NZSIOC, Value FROM \x7btable\x7d WHERE Variable_name = 'Total income' "
    ++ "ORDER BY CAST(Value AS DECIMAL) DESC LIMIT 10", ["industry", "top"], []⟩]

def defaultStatement : String := "SELECT * FROM \x7btable\x7d LIMIT 20"

/-- The rules in use where none are given. -/
def standard (table : String) : RuleBook := ⟨table, defaultRules, defaultStatement⟩

def templateFor (b : RuleBook) (question : String) : String :=
  match b.rules.find? fun r => r.fits (lower question) with
  | some r => r.template
  | none => b.default

def statementFor (b : RuleBook) (question : String) : Except Failure String :=
  Template.fill "table" b.table (b.templateFor question)

end RuleBook

end TableTalk.Generation
