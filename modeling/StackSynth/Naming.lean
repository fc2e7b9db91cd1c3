import StackSynth.Configuration.Basic
import StackSynth.Text.Blank
import StackSynth.Text.Lowercase
import StackSynth.Text.Split
/-!
The naming convention: `team-service-environment-region-base` in lower case, the region abbreviated.
-/
namespace StackSynth

def regionAbbreviations : Entries String := [
  ("us-east-1", "use1"),
  ("us-east-2", "use2"),
  ("us-west-1", "usw1"),
  ("us-west-2", "usw2"),
  ("af-south-1", "afs1"),
  ("ap-east-1", "ape1"),
  ("ap-south-1", "aps1"),
  ("ap-south-2", "aps2"),
  ("ap-northeast-1", "apne1"),
  ("ap-northeast-2", "apne2"),
  ("ap-northeast-3", "apne3"),
  ("ap-southeast-1", "apse1"),
  ("ap-southeast-2", "apse2"),
  ("ap-southeast-3", "apse3"),
  ("ca-central-1", "cac1"),
  ("ca-west-1", "caw1"),
  ("eu-central-1", "euc1"),
  ("eu-central-2", "euc2"),
  ("eu-west-1", "euw1"),
  ("eu-west-2", "euw2"),
  ("eu-west-3", "euw3"),
  ("eu-north-1", "eun1"),
  ("eu-south-1", "eus1"),
  ("eu-south-2", "eus2"),
  ("il-central-1", "ilc1"),
  ("me-south-1", "mes1"),
  ("me-central-1", "mec1"),
  ("sa-east-1", "sae1"),
  ("us-gov-east-1", "usge1"),
  ("us-gov-west-1", "usgw1"),
  ("cn-north-1", "cnn1"),
  ("cn-northwest-1", "cnnw1")]

/-- A text in lower case, without the white space around it. -/
def normalize (s : String) : String :=
  Text.lowercase (Text.trim s)

/-- The abbreviation of a region. An unknown region is cut at its first `-`. -/
def regionAbbreviation (region : String) : String :=
  let region := normalize region
  match Entries.find? regionAbbreviations region with
  | some abbreviation => abbreviation
  | none =>
    match Text.cutFirst? '-' region.toList with
    | some (first, _) => String.ofList first
    | none => region

/-- The conventional name of the resource `base`. -/
def Context.generateName (context : Context) (base : String) : String :=
  Text.lowercase <| "-".intercalate
    [normalize context.team, normalize context.service, normalize context.environment,
      regionAbbreviation context.region, base]

end StackSynth
