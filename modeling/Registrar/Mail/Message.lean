import Registrar.Failure
import Registrar.Mail.Queue
import Registrar.Mail.Template
import Registrar.Text.LetterCase
/-!
# Messages

Each item of a queue becomes one message. Four templates make up the bodies, between one prologue
and one epilogue; which template an item takes and which fields it fills in depends on its kind,
and for free seats on the number of sections.
-/
namespace Registrar.Mail

/-! ## Texts -/

/-- What every body starts with (`template::PROLOGUE`). -/
def prologue : String :=
  "<html>
<head>
\t<title></title>
\t<link href=\"https://svc.webspellchecker.net/spellcheck31/lf/scayt3/ckscayt/css/wsc.css\" rel=\"stylesheet\" type=\"text/css\" />
</head>
<body aria-readonly=\"false\" style=\"cursor: auto;\">
<table align=\"center\" border=\"0\" cellpadding=\"1\" cellspacing=\"1\" style=\"width:250px\">
\t<tbody>
\t\t<tr>
\t\t\t<td><a href=\"#\"><img src=\"https://uwflow.com/title.png\" style=\"width:100%\" /></a></td>
\t\t</tr>
\t</tbody>
</table>
<table align=\"center\" border=\"0\" cellpadding=\"1\" cellspacing=\"1\" style=\"width:600px\">
\t<tbody>
\t\t<tr>
\t\t\t<td><span style=\"font-size:14px;font-family:arial,helvetica,sans-serif;\">"

/-- What every body ends with (`template::EPILOGUE`). -/
def epilogue : String :=
  "</span></td>
\t\t</tr>
\t</tbody>
</table>
</body>
</html>"

/-- The way to a new password (`template::RESET_BODY`). -/
def resetBody : String :=
  "
\t\t\t\tHi \x7b\x7bUserName\x7d\x7d,<br /><br />
\t\t\t\tYour one-time reset code is \x7b\x7bSecretKey\x7d\x7d. Follow the instructions back on Flow and we will have you course-surfing in no time!<br /><br />
\t\t\t\tCheers,<br />
\t\t\t\tUW Flow
"

/-- A subscription has been taken down (`template::SUBSCRIBED_BODY`). -/
def subscribedBody : String :=
  "
\t\t\t\tHi \x7b\x7bUserName\x7d\x7d,<br /><br />
\t\t\t\tYou subscribed to one or more sections in \x7b\x7bCourseCode\x7d\x7d.<br /><br />
\t\t\t\tWe’ll notify you when a spot opens in a section you subscribed to.<br /><br />
\t\t\t\tIf you’d like to unsubscribe, navigate to \x7b\x7bCourseURL\x7d\x7d, sign in, and click the blue bell icon on sections you don’t want to hear about.<br /><br />
\t\t\t\tCheers,<br />
\t\t\t\tUW Flow
"

/-- Seats are free in one section (`template::ONE_VACATED_BODY`). -/
def oneVacatedBody : String :=
  "
\t\t\t\tHi \x7b\x7bUserName\x7d\x7d,<br /><br />
\t\t\t\t\x7b\x7bSectionNames[0]\x7d\x7d in \x7b\x7bCourseCode\x7d\x7d has open seats!<br /><br />
\t\t\t\tTake a look at \x7b\x7bCourseURL\x7d\x7d<br /><br />
\t\t\t\tCheers,<br />
\t\t\t\tUW Flow
"

/-- Seats are free in several sections (`template::MANY_VACATED_BODY`). -/
def manyVacatedBody : String :=
  "
\t\t\t\tHi \x7b\x7bUserName\x7d\x7d,<br /><br />
\t\t\t\tThe following sections in \x7b\x7bCourseCode\x7d\x7d have open seats:
\t\t\t\t<ul>\x7b\x7b#each SectionNames\x7d\x7d<li>\x7b\x7b.\x7d\x7d</li>\x7b\x7b/each\x7d\x7d</ul>
\t\t\t\tTake a look at \x7b\x7bCourseURL\x7d\x7d<br /><br />
\t\t\t\tCheers,<br />
\t\t\t\tUW Flow
"

/-! ## Templates -/

namespace Template

/-- Reads a body between the prologue and the epilogue (`Template::html`). -/
def readHtml (name : String) (body : List Char) : Except TemplateFault Template :=
  read name (prologue.toList ++ body ++ epilogue.toList)

end Template

/-- A fault of a template as a failure (`Template::error`). -/
def TemplateFault.failure (template : String) (fault : TemplateFault) : Failure :=
  .render template fault.message

/-- The templates of all messages (`template::MessageTemplates`). -/
structure Templates where
  reset : Template
  subscribed : Template
  oneVacated : Template
  manyVacated : Template
  deriving Repr

/-- Reads a built-in template. -/
def readBuiltIn (name body : String) : Except Failure Template :=
  (Template.readHtml name body.toList).mapError (TemplateFault.failure name)

/-- The built-in templates (`MessageTemplates::new`). -/
def Templates.builtIn : Except Failure Templates := do
  return {
    reset := ← readBuiltIn "reset" resetBody
    subscribed := ← readBuiltIn "subscribed" subscribedBody
    oneVacated := ← readBuiltIn "one_vacated" oneVacatedBody
    manyVacated := ← readBuiltIn "many_vacated" manyVacatedBody }

/-! ## Messages -/

/-- A message that is ready to be delivered (`queue::OutboundMessage`). -/
structure Message where
  recipient : String
  subject : String
  body : String
  deriving DecidableEq, Repr

/-- The address of a course's page (`queue::course_url`); `base` may end with slashes. -/
def courseUrl (base code : String) : String :=
  let base := (base.toList.reverse.dropWhile fun c => c == '/').reverse
  String.ofList base ++ "/" ++ Text.lower code

namespace Item

/-- The template of an item. -/
def template (templates : Templates) : Item → Template
  | reset _ => templates.reset
  | subscribed _ => templates.subscribed
  | vacated item =>
    if 1 < item.sectionNames.length then templates.manyVacated else templates.oneVacated

/-- The subject of an item's message. Course codes are shown in upper case. -/
def subject : Item → String
  | reset _ => "Reset your password on UW Flow"
  | subscribed item => s!"You’re all set to receive notifications for {Text.upper item.courseCode}"
  | vacated item => s!"Enrolment updates in {Text.upper item.courseCode}"

/-- The fields that an item fills in. -/
def context (base : String) : Item → Context
  | reset item => [("UserName", .text item.userName), ("SecretKey", .text item.secretKey)]
  | subscribed item => [
      ("UserName", .text item.userName),
      ("CourseCode", .text (Text.upper item.courseCode)),
      ("CourseURL", .text (courseUrl base item.courseCode))]
  | vacated item => [
      ("UserName", .text item.userName),
      ("CourseCode", .text (Text.upper item.courseCode)),
      ("CourseURL", .text (courseUrl base item.courseCode)),
      ("SectionNames", .list item.sectionNames)]

/-- The message of an item (`QueueItem::to_message`); `base` is where the pages of courses are. -/
def message (templates : Templates) (base : String) (item : Item) : Except Failure Message :=
  let template := item.template templates
  match template.render (item.context base) with
  | .ok body => .ok ⟨item.recipient, item.subject, String.ofList body⟩
  | .error fault => .error (fault.failure template.name)

end Item

end Registrar.Mail
