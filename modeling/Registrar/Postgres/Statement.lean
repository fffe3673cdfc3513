import Registrar.Sql.BulkText
import Registrar.Sql.Identifier
import Registrar.Sql.Literal
import Registrar.Postgres.Server
import Registrar.Warehouse.Basic
/-!
# Statements

The statements of a warehouse: those that begin and end transactions, those that write rows, and
those that read the dates of terms and the rows of queues. Every name in a statement is checked
and quoted, so a statement cannot be made with a name that the server would not take whole.
-/
namespace Registrar.Postgres

open Registrar.Sql Registrar.Warehouse

def beginText : Mode → String
  | .readWrite => "BEGIN"
  | .snapshot => "BEGIN ISOLATION LEVEL REPEATABLE READ"

def commitText : String := "COMMIT"

def rollbackText : String := "ROLLBACK"

/-- A statement that does nothing but show that the server answers (`PgWarehouse::health_check`). -/
def testText : String := "SELECT 1"

/-- The statement that inserts rows and returns their ids
(`postgres::build_insert_sql_literals`). -/
def insertStatement (schema : String) (rows : Rows) : Except Failure String := do
  let table ← Identifier.qualifyTable schema rows.table
  let columns ← Identifier.quoteColumns rows.columns
  return String.ofList (insertText table columns rows.rows) ++ " RETURNING id"

/-- The statement before rows that are written in bulk (`PgTx::copy_rows`). -/
def bulkStatement (schema : String) (rows : Rows) : Except Failure String := do
  let table ← Identifier.qualifyTable schema rows.table
  let columns ← Identifier.quoteColumns rows.columns
  return s!"COPY {table} ({columns}) FROM STDIN WITH (FORMAT text)"

/-- The statement that reads the dates of terms (`PgTx::term_dates`). -/
def termStatement (schema : String) : Except Failure String := do
  let table ← Identifier.qualify schema "term_date"
  return s!"SELECT term::int, start_date::date, end_date::date FROM {table}"

/-- The statement that marks every row of a queue as seen (`PgTx::mark_seen`). -/
def markStatement (queue : Mail.Queue) : Except Failure String := do
  let table ← Identifier.qualify "queue" queue.name
  return s!"UPDATE {table} SET seen_at = NOW() WHERE seen_at IS NULL"

/-- The statement that reads the rows of a queue that nobody has seen, with what their messages need
(`postgres::queue_query`). A user whom a row has told of a course is not told of it again. -/
def queueStatement (schema : String) (queue : Mail.Queue) : Except Failure String := do
  let user ← Identifier.qualify schema "user"
  let course ← Identifier.qualify schema "course"
  let courseSection ← Identifier.qualify schema "course_section"
  return match queue with
  | .passwordReset => s!"
SELECT pr.user_id::bigint, u.email::text, u.first_name::text, pr.secret_key::text
FROM queue.password_reset pr
  JOIN {user} u ON u.id = pr.user_id
WHERE pr.seen_at IS NULL
"
  | .sectionSubscribed => s!"
WITH existing_course_sub AS (
  SELECT DISTINCT cs.course_id, ss.user_id
  FROM queue.section_subscribed ss
    JOIN {courseSection} cs ON cs.id = ss.section_id
  WHERE ss.seen_at IS NOT NULL
)
SELECT ss.id::bigint, ss.user_id::bigint, u.email::text, u.first_name::text, c.code::text
FROM queue.section_subscribed ss
  JOIN {user} u ON u.id = ss.user_id
  JOIN {courseSection} cs ON cs.id = ss.section_id
  JOIN {course} c ON c.id = cs.course_id
  LEFT JOIN existing_course_sub ex
    ON ex.course_id = cs.course_id AND ex.user_id = ss.user_id
WHERE ss.seen_at IS NULL
  AND ex.course_id IS NULL
"
  | .sectionVacated => s!"
SELECT sv.id::bigint, u.email::text, u.first_name::text, c.code::text, sv.section_names::text[]
FROM queue.section_vacated sv
  JOIN {user} u ON u.id = sv.user_id
  JOIN {course} c ON c.id = sv.course_id
WHERE sv.seen_at IS NULL
"

end Registrar.Postgres
