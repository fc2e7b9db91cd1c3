import StackSynth.ResourceType

namespace StackSynth

/-- The two kinds of constructs: resources that are created and data sources that are looked up. -/
inductive BlockKind where
  | resource
  | dataSource
deriving DecidableEq, Repr, Inhabited

structure CatalogEntry where
  moduleName : String
  classes : List String
  terraformType : String
  /-- The attributes that every resource of the module has. -/
  attributes : List String
  /-- Whether its resources can be looked up. -/
  hasDataSource : Bool
deriving DecidableEq, Repr, Inhabited

structure UnknownType where
  kind : BlockKind
  type : ResourceType
deriving DecidableEq, Repr

def UnknownType.message (unknown : UnknownType) : String :=
  let noun := match unknown.kind with
    | .resource => "resource type"
    | .dataSource => "data source"
  s!"No {noun} named '{unknown.type.className}' in module '{unknown.type.moduleName}'"

abbrev Catalog := List (ResourceType × CatalogEntry)

namespace Catalog

/-- The entry of a module, whose resources all have an `id`. -/
def entry (moduleName : String) (classes : List String) (terraformType : String)
    (hasDataSource : Bool) (attributes : List String) : CatalogEntry :=
  ⟨moduleName, classes, terraformType, "id" :: attributes, hasDataSource⟩

def entries : List CatalogEntry := [
  entry "vpc" ["Vpc"] "aws_vpc" true
    ["arn", "cidr_block", "default_security_group_id", "main_route_table_id", "owner_id"],
  entry "subnet" ["Subnet"] "aws_subnet" true
    ["arn", "availability_zone", "cidr_block", "vpc_id"],
  entry "security_group" ["SecurityGroup"] "aws_security_group" true
    ["arn", "name", "vpc_id"],
  entry "internet_gateway" ["InternetGateway"] "aws_internet_gateway" true
    ["arn", "owner_id"],
  entry "instance" ["Instance"] "aws_instance" true
    ["arn", "private_ip", "public_ip", "public_dns"],
  entry "s3_bucket" ["Bucket", "S3Bucket"] "aws_s3_bucket" true
    ["arn", "bucket", "bucket_domain_name", "bucket_regional_domain_name"],
  entry "iam_role" ["Role", "IamRole"] "aws_iam_role" true
    ["arn", "name", "unique_id"],
  entry "lambda_function" ["Function", "LambdaFunction"] "aws_lambda_function" true
    ["arn", "function_name", "invoke_arn", "qualified_arn", "version"],
  entry "api_gateway_rest_api" ["RestApi", "ApiGatewayRestApi"] "aws_api_gateway_rest_api" true
    ["arn", "execution_arn", "root_resource_id"],
  entry "apigatewayv2_api" ["Api", "Apigatewayv2Api"] "aws_apigatewayv2_api" true
    ["arn", "api_endpoint", "execution_arn"],
  entry "dynamodb_table" ["Table", "DynamodbTable"] "aws_dynamodb_table" true
    ["arn", "name", "stream_arn"],
  entry "cloudfront_distribution" ["Distribution", "CloudfrontDistribution"]
    "aws_cloudfront_distribution" true ["arn", "domain_name", "hosted_zone_id"],
  entry "cloudwatch_dashboard" ["Dashboard", "CloudwatchDashboard"] "aws_cloudwatch_dashboard"
    false ["dashboard_arn"],
  entry "cognito_user_pool" ["UserPool", "CognitoUserPool"] "aws_cognito_user_pool" true
    ["arn", "endpoint"],
  entry "sqs_queue" ["Queue", "SqsQueue"] "aws_sqs_queue" true
    ["arn", "url"],
  entry "ssm_parameter" ["Parameter", "SsmParameter"] "aws_ssm_parameter" true
    ["arn", "name", "value", "version"],
  entry "bedrock_agent" ["Agent", "BedrockagentAgent"] "aws_bedrockagent_agent" false
    ["agent_arn", "agent_id", "agent_version"]]

/-- The catalog of the known modules: a type for each name of a class. -/
def builtin : Catalog :=
  entries.flatMap fun e => e.classes.map fun className => (⟨e.moduleName, className⟩, e)

/-- The entry of a type that is to be built as a kind of construct. -/
def resolve (catalog : Catalog) (kind : BlockKind) (type : ResourceType) :
    Except UnknownType CatalogEntry :=
  match catalog.lookup type with
  | none => .error ⟨kind, type⟩
  | some e => if kind = .dataSource ∧ ¬ e.hasDataSource then .error ⟨kind, type⟩ else .ok e

theorem resolve_eq_error {catalog : Catalog} {kind : BlockKind} {type : ResourceType}
    {unknown : UnknownType} (h : catalog.resolve kind type = .error unknown) :
    unknown = ⟨kind, type⟩ := by
  unfold resolve at h
  split at h
  · exact (Except.error.inj h).symm
  · split at h
    · exact (Except.error.inj h).symm
    · cases h

/-- What is found in the catalog is listed there, under one of the names of its class. -/
theorem mem_entries_of_resolve {kind : BlockKind} {type : ResourceType} {found : CatalogEntry}
    (h : builtin.resolve kind type = .ok found) : found ∈ entries := by
  unfold resolve at h
  split at h
  · cases h
  · next listed hlookup =>
    split at h
    · cases h
    · obtain rfl := Except.ok.inj h
      obtain ⟨before, after, hbuiltin, _⟩ := List.lookup_eq_some_iff.mp hlookup
      have hmem : (type, listed) ∈ builtin := by
        rw [hbuiltin]
        exact List.mem_append_right _ List.mem_cons_self
      obtain ⟨e, he, hclass⟩ := List.mem_flatMap.mp hmem
      obtain ⟨className, _, heq⟩ := List.mem_map.mp hclass
      obtain rfl := (Prod.mk.inj heq).2
      exact he

/-- Every resource has the attribute that is published. -/
theorem id_mem_attributes {found : CatalogEntry} (h : found ∈ entries) :
    "id" ∈ found.attributes := by
  have hall : ∀ found ∈ entries, "id" ∈ found.attributes := by decide +kernel
  exact hall found h

end Catalog

end StackSynth
