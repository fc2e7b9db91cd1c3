import StackSynth.Entries
import StackSynth.Text.Lowercase
import StackSynth.Text.Split

namespace StackSynth

/-- The modules of the services that have one under another name, or under their own. -/
def serviceModules : Entries String := [
  ("vpc", "vpc"),
  ("ec2", "instance"),
  ("s3", "s3_bucket"),
  ("s3_bucket", "s3_bucket"),
  ("iam", "iam_role"),
  ("lambda", "lambda_function"),
  ("apigateway", "api_gateway_rest_api"),
  ("apigatewayv2", "apigatewayv2_api"),
  ("dynamodb", "dynamodb_table"),
  ("cloudfront", "cloudfront_distribution"),
  ("cloudwatch", "cloudwatch_dashboard"),
  ("cognito", "cognito_user_pool"),
  ("sqs", "sqs_queue"),
  ("ssm", "ssm_parameter"),
  ("bedrock", "bedrock_agent")]

def taggableModules : List String := [
  "s3_bucket", "lambda_function", "dynamodb_table", "api_gateway_rest_api", "cognito_user_pool",
  "sqs_queue", "apigatewayv2_api", "ssm_parameter", "iam_role", "cloudfront_distribution"]

/-- The module of a service, in any case. An unknown service is its own module. -/
def moduleOf (service : String) : String :=
  let service := Text.lowercase service
  (Entries.find? serviceModules service).getD service

structure ResourceType where
  moduleName : String
  className : String
deriving DecidableEq, Repr, Inhabited

namespace ResourceType

/-- The service of a tag without a dot. -/
def defaultService : String := "ec2"

/-- The type of a tag. Its first dot ends the service; the class keeps all further ones. -/
def ofTag (tag : String) : ResourceType :=
  match Text.cutFirst? '.' tag.toList with
  | some (service, className) => ⟨moduleOf (String.ofList service), String.ofList className⟩
  | none => ⟨moduleOf defaultService, tag⟩

def supportsTags (type : ResourceType) : Bool :=
  taggableModules.contains type.moduleName

def display (type : ResourceType) : String :=
  type.moduleName ++ "." ++ type.className

end ResourceType

end StackSynth
