import TenantOverlay.CommandLine.Arguments

/-!
# Help

What the program says about itself and its commands.
-/

namespace TenantOverlay.Help

/-- The name and version of the program. -/
def version : String := "flannel-operator 0.2.0\n"

/-- A heading with lines under it, the texts of which begin in one column. -/
def table (heading : String) (width : Nat) (rows : List (String × String)) : String :=
  heading ++ ":\n" ++ String.join (rows.map fun r =>
    "  " ++ r.1 ++ String.ofList (List.replicate (width - r.1.length) ' ') ++ r.2 ++ "\n")

/-- What a command is for, how it is called, and what can be given to it. -/
def page (about usage : String) (tables : List String) : String :=
  about ++ "\n\nUsage: flannel-operator " ++ usage ++ "\n" ++
    String.join (tables.map ("\n" ++ ·))

private def helpRow : String × String := ("-h, --help", "Print help")

/-- The help on a topic; the current value of the variable that names the configuration file is
shown with its option. -/
def text (topic : Topic) (configPath : Option String) : String :=
  match topic with
  | .program => page "Flannel Operator - 管理租户集群的 flannel 网络" "<COMMAND>"
      [table "Commands" 9 [("daemon", "运行 Operator"), ("crd", "打印 FlannelConfig CRD"),
        ("version", "打印版本包"),
        ("help", "Print this message or the help of the given subcommand(s)")],
       table "Options" 15 [helpRow, ("-V, --version", "Print version")]]
  | .daemon => page "运行 Operator" "daemon [OPTIONS]"
      [table "Options" 39 [
        ("    --config <CONFIG>", "YAML/JSON 配置文件 [env: " ++ DaemonOptions.configVariable ++ "=" ++
          configPath.getD "" ++ "]"),
        ("    --etcd-endpoints <ETCD_ENDPOINTS>", "etcd 端点，逗号分隔"),
        ("    --label-selector <LABEL_SELECTOR>", "FlannelConfig 标签选择器"),
        ("    --metrics-port <METRICS_PORT>", "指标服务器端口"),
        ("    --log-level <LOG_LEVEL>", "日志级别"), helpRow]]
  | .definition => page "打印 FlannelConfig CRD" "crd" [table "Options" 12 [helpRow]]
  | .bundles => page "打印版本包" "version" [table "Options" 12 [helpRow]]
  | .help => page "Print this message or the help of the given subcommand(s)" "help [COMMAND]..."
      [table "Arguments" 14 [("[COMMAND]...", "Print help for the subcommand(s)")]]

end TenantOverlay.Help
