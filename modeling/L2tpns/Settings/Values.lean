import L2tpns.Cli.Words

/-! # Configuration values

The table of configuration values with their types, the command `set` that stores one and the
text that `cmd_show_run` prints for one. What is stored after reading that text is the value
again, unless it is an unsigned long beyond 63 bits (`L2tpns.Settings.store_text`).
-/

namespace L2tpns.Settings

open Foundation.CText Cli

/-- `enum config_typet` -/
inductive ConfigType
  | int
  | string
  | unsignedLong
  | short
  | bool
  | ipv4
  | ipv6
deriving DecidableEq, Repr

/-- `config_descriptt` -/
structure Descriptor where
  key : String
  type : ConfigType
  size : Nat
deriving DecidableEq, Repr

/-- `config_values` -/
def configValues : List Descriptor :=
  [⟨"debug", .int, 4⟩, ⟨"log_file", .string, 128⟩, ⟨"pid_file", .string, 256⟩,
    ⟨"random_device", .string, 256⟩, ⟨"l2tp_secret", .string, 64⟩, ⟨"l2tp_mtu", .int, 4⟩,
    ⟨"pppoe_mru", .int, 4⟩, ⟨"ppp_restart_time", .int, 4⟩, ⟨"ppp_max_configure", .int, 4⟩,
    ⟨"ppp_max_failure", .int, 4⟩, ⟨"ppp_keepalive", .bool, 4⟩, ⟨"primary_dns", .ipv4, 4⟩,
    ⟨"secondary_dns", .ipv4, 4⟩, ⟨"primary_radius", .ipv4, 4⟩, ⟨"secondary_radius", .ipv4, 4⟩,
    ⟨"primary_radius_port", .short, 2⟩, ⟨"secondary_radius_port", .short, 2⟩,
    ⟨"radius_accounting", .bool, 4⟩, ⟨"radius_interim", .int, 4⟩, ⟨"radius_secret", .string, 64⟩,
    ⟨"radius_authtypes", .string, 32⟩, ⟨"radius_dae_port", .short, 2⟩,
    ⟨"radius_bind_min", .short, 2⟩, ⟨"radius_bind_max", .short, 2⟩,
    ⟨"allow_duplicate_users", .bool, 4⟩, ⟨"allow_duplicate_ip", .bool, 4⟩,
    ⟨"suicide_duplicate_ip", .bool, 4⟩, ⟨"kill_timedout_sessions", .bool, 4⟩,
    ⟨"guest_account", .string, 128⟩, ⟨"bind_address", .ipv4, 4⟩, ⟨"peer_address", .ipv4, 4⟩,
    ⟨"send_garp", .bool, 4⟩, ⟨"throttle_speed", .unsignedLong, 8⟩, ⟨"throttle_buckets", .int, 4⟩,
    ⟨"accounting_dir", .string, 128⟩, ⟨"garden_accounting_dir", .string, 128⟩,
    ⟨"setuid", .int, 4⟩, ⟨"account_all_origin", .bool, 4⟩, ⟨"dump_speed", .bool, 4⟩,
    ⟨"multi_read_count", .int, 4⟩, ⟨"scheduler_fifo", .bool, 4⟩, ⟨"lock_pages", .bool, 4⟩,
    ⟨"icmp_rate", .int, 4⟩, ⟨"packet_limit", .int, 4⟩, ⟨"cluster_address", .ipv4, 4⟩,
    ⟨"cluster_port", .int, 4⟩, ⟨"cluster_interface", .string, 64⟩, ⟨"cluster_mcast_ttl", .int, 4⟩,
    ⟨"cluster_hb_interval", .int, 4⟩, ⟨"cluster_hb_timeout", .int, 4⟩,
    ⟨"lcp_echo_timeout", .int, 4⟩, ⟨"lcp_idle_timeout", .int, 4⟩,
    ⟨"cluster_master_min_adv", .int, 4⟩, ⟨"ipv6_prefix", .ipv6, 16⟩,
    ⟨"append_realm", .string, 32⟩, ⟨"gardens", .string, 256⟩, ⟨"default_garden", .int, 4⟩,
    ⟨"garden_hardened_security", .int, 4⟩, ⟨"cli_bind_address", .ipv4, 4⟩,
    ⟨"hostname", .string, 256⟩, ⟨"nexthop_address", .ipv4, 4⟩, ⟨"nexthop6_address", .ipv6, 16⟩,
    ⟨"echo_timeout", .int, 4⟩, ⟨"idle_echo_timeout", .int, 4⟩, ⟨"iftun_address", .ipv4, 4⟩,
    ⟨"tundevicename", .string, 16⟩, ⟨"disable_lac_func", .bool, 4⟩,
    ⟨"auth_tunnel_change_addr_src", .bool, 4⟩, ⟨"bind_address_remotelns", .ipv4, 4⟩,
    ⟨"bind_portremotelns", .short, 2⟩, ⟨"pppoe_if_to_bind", .string, 16⟩,
    ⟨"pppoe_service_name", .string, 64⟩, ⟨"pppoe_ac_name", .string, 64⟩,
    ⟨"disable_sending_hello", .bool, 4⟩, ⟨"disable_no_spoof", .bool, 4⟩,
    ⟨"bind_multi_address", .string, 256⟩, ⟨"pppoe_only_equal_svc_name", .bool, 4⟩,
    ⟨"multi_hostname", .string, 512⟩, ⟨"no_throttle_local_IP", .bool, 4⟩,
    ⟨"dhcp6_preferred_lifetime", .int, 4⟩, ⟨"dhcp6_valid_lifetime", .int, 4⟩,
    ⟨"dhcp6_server_duid", .int, 4⟩, ⟨"dns6_lifetime", .int, 4⟩, ⟨"primary_ipv6_dns", .ipv6, 16⟩,
    ⟨"secondary_ipv6_dns", .ipv6, 16⟩, ⟨"default_ipv6_domain_list", .string, 255⟩]

abbrev In6Addr := BitVec 128

/-- The values of a type. -/
abbrev ConfigType.Val : ConfigType → Type
  | .int => Int32
  | .string => Word
  | .unsignedLong => UInt64
  | .short => UInt16
  | .bool => Bool
  | .ipv4 => UInt32
  | .ipv6 => In6Addr

/-- `inet_pton` and `inet_ntop` for IPv6. -/
structure Inet6 where
  pton : Word → Option In6Addr
  ntop : In6Addr → Word

/-- What is printed is a word, and is read back. -/
structure Inet6.Inverse (inet6 : Inet6) : Prop where
  plain : ∀ addr, Plain (inet6.ntop addr)
  noQuote : ∀ addr, '"' ∉ inet6.ntop addr
  pton_ntop : ∀ addr, inet6.pton (inet6.ntop addr) = some addr

/-- `inet_addr` in host order, where a text that is no address reads as 255.255.255.255. -/
def inetAddr (text : Word) : UInt32 := (inetAton text).getD 0xffffffff

/-- `strcasecmp` with a lower case text. -/
def isIgnoringCase (text : Word) (lower : String) : Bool := text.map Char.toLower = lower.toList

/-- The `switch` of `cmd_set`: the value of a type after it is set to a text. -/
def store (inet6 : Inet6) (size : Nat) : (type : ConfigType) → Word → type.Val → type.Val
  | .string, arg, _ => arg.take (size - 1)
  | .int, arg, _ => Int32.ofInt (atoi arg)
  | .unsignedLong, arg, _ => UInt64.ofInt (atol arg)
  | .short, arg, _ => UInt16.ofInt (atoi arg)
  | .ipv4, arg, _ => inetAddr arg
  | .ipv6, arg, old => (inet6.pton arg).getD old
  | .bool, arg, _ =>
      isIgnoringCase arg "yes" ∨ isIgnoringCase arg "true" ∨ isIgnoringCase arg "1"

/-- The text of a value, without the quotes around a string. -/
def text (inet6 : Inet6) (size : Nat) : (type : ConfigType) → type.Val → Word
  | .string, v => v.take size
  | .int, v => decimalInt v.toInt
  | .unsignedLong, v => decimal v.toNat
  | .short, v => decimal v.toNat
  | .ipv4, v => inetNtoa v
  | .ipv6, v => inet6.ntop v
  | .bool, v => if v then "yes".toList else "no".toList

/-- The value is printed and read without a loss. -/
def Exact : (type : ConfigType) → type.Val → Prop
  | .unsignedLong, v => v.toNat < 2 ^ 63
  | _, _ => True

/-- A string stands in its buffer and in its quotes. -/
def Stands (size : Nat) : (type : ConfigType) → type.Val → Prop
  | .string, v => v.length < size ∧ '"' ∉ v ∧ '\n' ∉ v
  | _, _ => True

theorem ofInt_short (v : UInt16) : UInt16.ofInt (v.toNat : Int) = v := by
  have bound := v.toNat_lt
  rw [UInt16.ofInt, Int.emod_eq_of_lt (by omega) (by omega), Int.toNat_natCast, UInt16.ofNat_toNat]

theorem ofInt_long (v : UInt64) : UInt64.ofInt (v.toNat : Int) = v := by
  have bound := v.toNat_lt
  rw [UInt64.ofInt, Int.emod_eq_of_lt (by omega) (by omega), Int.toNat_natCast, UInt64.ofNat_toNat]

/-- **A value is read back exactly when it is exact.** -/
theorem store_text {inet6 : Inet6} (inverse : inet6.Inverse) (size : Nat) :
    ∀ (type : ConfigType) (v old : type.Val), Stands size type v →
      (store inet6 size type (text inet6 size type v) old = v ↔ Exact type v)
  | .string, v, old, stands => by
      simp only [store, text, Exact, iff_true]
      rw [List.take_take, List.take_of_length_le]
      have := stands.1
      omega
  | .int, v, old, _ => by
      have low := v.le_toInt
      have high := v.toInt_lt
      simp only [store, text, Exact, iff_true]
      rw [atoi_decimalInt low high, Int32.ofInt_toInt]
  | .unsignedLong, v, old, _ => by
      have bound := v.toNat_lt
      simp only [store, text, Exact, atol_clamp]
      by_cases small : v.toNat < 2 ^ 63
      · have all : min (v.toNat : Int) (2 ^ 63 - 1) = v.toNat := by omega
        rw [all]
        exact iff_of_true (ofInt_long v) small
      · have clamped : min (v.toNat : Int) (2 ^ 63 - 1) = 2 ^ 63 - 1 := by omega
        rw [clamped]
        refine iff_of_false (fun eq => small ?_) small
        rw [← eq]
        decide
  | .short, v, old, _ => by
      have bound := v.toNat_lt
      simp only [store, text, Exact, iff_true]
      rw [atoi_decimal (by omega)]
      exact ofInt_short v
  | .ipv4, v, old, _ => by
      simp only [store, text, Exact, iff_true]
      rw [inetAddr, inetAton_inetNtoa]
      rfl
  | .ipv6, v, old, _ => by
      simp only [store, text, Exact, iff_true]
      rw [inverse.pton_ntop]
      rfl
  | .bool, v, old, _ => by
      cases v <;> exact iff_of_true rfl trivial

end L2tpns.Settings
