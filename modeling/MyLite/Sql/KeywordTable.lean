import MyLite.Sql.Lexer

/-! The keyword table of `mylite_sql_keyword_lookup`, and the ranges and masks derived from
it. -/

namespace MyLite.Sql

structure KeywordEntry where
  word : String
  flags : Nat

def reserved : Nat := 1

def restrictedLabel : Nat := 2

def restrictedRole : Nat := 4

def keywords : List KeywordEntry := [
  ⟨"ABS", 0⟩, ⟨"ACCESSIBLE", reserved⟩, ⟨"ACCOUNT", 0⟩, ⟨"ACOS", 0⟩, ⟨"ACTION", 0⟩, ⟨"ACTIVE", 0⟩,
  ⟨"ADD", reserved⟩, ⟨"ADDDATE", 0⟩, ⟨"ADDTIME", 0⟩, ⟨"ADMIN", 0⟩, ⟨"AFTER", 0⟩, ⟨"AGAINST", 0⟩,
  ⟨"AGGREGATE", 0⟩, ⟨"ALGORITHM", 0⟩, ⟨"ALL", reserved⟩, ⟨"ALTER", reserved⟩, ⟨"ALWAYS", 0⟩,
  ⟨"ANALYZE", reserved⟩, ⟨"AND", reserved⟩, ⟨"ANY", 0⟩, ⟨"ANY_VALUE", 0⟩, ⟨"ARRAY", 0⟩,
  ⟨"AS", reserved⟩, ⟨"ASC", reserved⟩, ⟨"ASCII", restrictedLabel⟩, ⟨"ASENSITIVE", reserved⟩,
  ⟨"ASIN", 0⟩, ⟨"ASSIGN_GTIDS_TO_ANONYMOUS_TRANSACTIONS", 0⟩, ⟨"AT", 0⟩, ⟨"ATAN", 0⟩, ⟨"ATAN2", 0⟩,
  ⟨"ATTRIBUTE", 0⟩, ⟨"AUTHENTICATION", 0⟩, ⟨"AUTO", 0⟩, ⟨"AUTOEXTEND_SIZE", 0⟩,
  ⟨"AUTO_INCREMENT", 0⟩, ⟨"AVG", 0⟩, ⟨"AVG_ROW_LENGTH", 0⟩, ⟨"BACKUP", 0⟩, ⟨"BEFORE", reserved⟩,
  ⟨"BEGIN", restrictedLabel⟩, ⟨"BERNOULLI", 0⟩, ⟨"BETWEEN", reserved⟩, ⟨"BIGINT", reserved⟩,
  ⟨"BIN", 0⟩, ⟨"BINARY", reserved⟩, ⟨"BINLOG", 0⟩, ⟨"BIN_TO_UUID", 0⟩, ⟨"BIT", 0⟩, ⟨"BIT_AND", 0⟩,
  ⟨"BIT_COUNT", 0⟩, ⟨"BIT_LENGTH", 0⟩, ⟨"BIT_OR", 0⟩, ⟨"BIT_XOR", 0⟩, ⟨"BLOB", reserved⟩,
  ⟨"BLOCK", 0⟩, ⟨"BOOL", 0⟩, ⟨"BOOLEAN", 0⟩, ⟨"BOTH", reserved⟩, ⟨"BTREE", 0⟩, ⟨"BUCKETS", 0⟩,
  ⟨"BULK", 0⟩, ⟨"BY", reserved⟩, ⟨"BYTE", restrictedLabel⟩, ⟨"CACHE", restrictedLabel⟩,
  ⟨"CALL", reserved⟩, ⟨"CASCADE", reserved⟩, ⟨"CASCADED", 0⟩, ⟨"CASE", reserved⟩, ⟨"CAST", 0⟩,
  ⟨"CATALOG_NAME", 0⟩, ⟨"CEIL", 0⟩, ⟨"CEILING", 0⟩, ⟨"CHAIN", 0⟩, ⟨"CHALLENGE_RESPONSE", 0⟩,
  ⟨"CHANGE", reserved⟩, ⟨"CHANGED", 0⟩, ⟨"CHANNEL", 0⟩, ⟨"CHAR", reserved⟩, ⟨"CHARACTER", reserved⟩,
  ⟨"CHARACTER_LENGTH", 0⟩, ⟨"CHARSET", restrictedLabel⟩, ⟨"CHAR_LENGTH", 0⟩, ⟨"CHECK", reserved⟩,
  ⟨"CHECKSUM", restrictedLabel⟩, ⟨"CIPHER", 0⟩, ⟨"CLASS_ORIGIN", 0⟩, ⟨"CLIENT", 0⟩,
  ⟨"CLONE", restrictedLabel⟩, ⟨"CLOSE", 0⟩, ⟨"COALESCE", 0⟩, ⟨"CODE", 0⟩, ⟨"COERCIBILITY", 0⟩,
  ⟨"COLLATE", reserved⟩, ⟨"COLLATION", 0⟩, ⟨"COLUMN", reserved⟩, ⟨"COLUMNS", 0⟩,
  ⟨"COLUMN_FORMAT", 0⟩, ⟨"COLUMN_NAME", 0⟩, ⟨"COMMENT", restrictedLabel⟩,
  ⟨"COMMIT", restrictedLabel⟩, ⟨"COMMITTED", 0⟩, ⟨"COMPACT", 0⟩, ⟨"COMPLETION", 0⟩,
  ⟨"COMPONENT", 0⟩, ⟨"COMPRESS", 0⟩, ⟨"COMPRESSED", 0⟩, ⟨"COMPRESSION", 0⟩, ⟨"CONCAT", 0⟩,
  ⟨"CONCAT_WS", 0⟩, ⟨"CONCURRENT", 0⟩, ⟨"CONDITION", reserved⟩, ⟨"CONNECTION", 0⟩,
  ⟨"CONNECTION_ID", 0⟩, ⟨"CONSISTENT", 0⟩, ⟨"CONSTRAINT", reserved⟩, ⟨"CONSTRAINT_CATALOG", 0⟩,
  ⟨"CONSTRAINT_NAME", 0⟩, ⟨"CONSTRAINT_SCHEMA", 0⟩, ⟨"CONTAINS", restrictedLabel⟩, ⟨"CONTEXT", 0⟩,
  ⟨"CONTINUE", reserved⟩, ⟨"CONV", 0⟩, ⟨"CONVERT", reserved⟩, ⟨"CONVERT_TZ", 0⟩, ⟨"COS", 0⟩,
  ⟨"COT", 0⟩, ⟨"COUNT", 0⟩, ⟨"CPU", 0⟩, ⟨"CRC32", 0⟩, ⟨"CREATE", reserved⟩, ⟨"CROSS", reserved⟩,
  ⟨"CUBE", 0⟩, ⟨"CUME_DIST", reserved⟩, ⟨"CURDATE", 0⟩, ⟨"CURRENT", 0⟩, ⟨"CURRENT_DATE", reserved⟩,
  ⟨"CURRENT_ROLE", 0⟩, ⟨"CURRENT_TIME", reserved⟩, ⟨"CURRENT_TIMESTAMP", reserved⟩,
  ⟨"CURRENT_USER", reserved⟩, ⟨"CURSOR", reserved⟩, ⟨"CURSOR_NAME", 0⟩, ⟨"CURTIME", 0⟩, ⟨"DATA", 0⟩,
  ⟨"DATABASE", reserved⟩, ⟨"DATABASES", reserved⟩, ⟨"DATAFILE", 0⟩, ⟨"DATE", 0⟩, ⟨"DATEDIFF", 0⟩,
  ⟨"DATETIME", 0⟩, ⟨"DATE_ADD", 0⟩, ⟨"DATE_FORMAT", 0⟩, ⟨"DATE_SUB", 0⟩, ⟨"DAY", 0⟩, ⟨"DAYNAME", 0⟩,
  ⟨"DAYOFMONTH", 0⟩, ⟨"DAYOFWEEK", 0⟩, ⟨"DAYOFYEAR", 0⟩, ⟨"DAY_HOUR", reserved⟩,
  ⟨"DAY_MICROSECOND", reserved⟩, ⟨"DAY_MINUTE", reserved⟩, ⟨"DAY_SECOND", reserved⟩,
  ⟨"DEALLOCATE", restrictedLabel⟩, ⟨"DEC", reserved⟩, ⟨"DECIMAL", reserved⟩, ⟨"DECLARE", reserved⟩,
  ⟨"DEFAULT", reserved⟩, ⟨"DEFAULT_AUTH", 0⟩, ⟨"DEFINER", 0⟩, ⟨"DEFINITION", 0⟩, ⟨"DEGREES", 0⟩,
  ⟨"DELAYED", reserved⟩, ⟨"DELAY_KEY_WRITE", 0⟩, ⟨"DELETE", reserved⟩, ⟨"DENSE_RANK", reserved⟩,
  ⟨"DESC", reserved⟩, ⟨"DESCRIBE", reserved⟩, ⟨"DESCRIPTION", 0⟩, ⟨"DETERMINISTIC", reserved⟩,
  ⟨"DIAGNOSTICS", 0⟩, ⟨"DIRECTORY", 0⟩, ⟨"DISABLE", 0⟩, ⟨"DISCARD", 0⟩, ⟨"DISK", 0⟩,
  ⟨"DISTINCT", reserved⟩, ⟨"DISTINCTROW", reserved⟩, ⟨"DIV", reserved⟩, ⟨"DO", restrictedLabel⟩,
  ⟨"DOUBLE", reserved⟩, ⟨"DROP", reserved⟩, ⟨"DUAL", reserved⟩, ⟨"DUMPFILE", 0⟩, ⟨"DUPLICATE", 0⟩,
  ⟨"DYNAMIC", 0⟩, ⟨"EACH", reserved⟩, ⟨"ELSE", reserved⟩, ⟨"ELSEIF", reserved⟩, ⟨"ELT", 0⟩,
  ⟨"EMPTY", reserved⟩, ⟨"ENABLE", 0⟩, ⟨"ENCLOSED", reserved⟩, ⟨"ENCRYPTION", 0⟩,
  ⟨"END", restrictedLabel⟩, ⟨"ENDS", 0⟩, ⟨"ENFORCED", 0⟩, ⟨"ENGINE", 0⟩, ⟨"ENGINES", 0⟩,
  ⟨"ENGINE_ATTRIBUTE", 0⟩, ⟨"ENUM", 0⟩, ⟨"ERROR", 0⟩, ⟨"ERRORS", 0⟩, ⟨"ESCAPE", 0⟩,
  ⟨"ESCAPED", reserved⟩, ⟨"EVENT", restrictedRole⟩, ⟨"EVENTS", 0⟩, ⟨"EVERY", 0⟩,
  ⟨"EXCEPT", reserved⟩, ⟨"EXCHANGE", 0⟩, ⟨"EXCLUDE", 0⟩,
  ⟨"EXECUTE", restrictedLabel ||| restrictedRole⟩, ⟨"EXISTS", reserved⟩, ⟨"EXIT", reserved⟩,
  ⟨"EXP", 0⟩, ⟨"EXPANSION", 0⟩, ⟨"EXPIRE", 0⟩, ⟨"EXPLAIN", reserved⟩, ⟨"EXPORT", 0⟩,
  ⟨"EXPORT_SET", 0⟩, ⟨"EXTENDED", 0⟩, ⟨"EXTENT_SIZE", 0⟩, ⟨"EXTRACT", 0⟩, ⟨"FACTOR", 0⟩,
  ⟨"FAILED_LOGIN_ATTEMPTS", 0⟩, ⟨"FALSE", reserved⟩, ⟨"FAST", 0⟩, ⟨"FAULTS", 0⟩,
  ⟨"FETCH", reserved⟩, ⟨"FIELD", 0⟩, ⟨"FIELDS", 0⟩, ⟨"FILE", restrictedRole⟩,
  ⟨"FILE_BLOCK_SIZE", 0⟩, ⟨"FILTER", 0⟩, ⟨"FIND_IN_SET", 0⟩, ⟨"FINISH", 0⟩, ⟨"FIRST", 0⟩,
  ⟨"FIRST_VALUE", reserved⟩, ⟨"FIXED", 0⟩, ⟨"FLOAT", reserved⟩, ⟨"FLOAT4", reserved⟩,
  ⟨"FLOAT8", reserved⟩, ⟨"FLOOR", 0⟩, ⟨"FLUSH", restrictedLabel⟩, ⟨"FOLLOWING", 0⟩,
  ⟨"FOLLOWS", restrictedLabel⟩, ⟨"FOR", reserved⟩, ⟨"FORCE", reserved⟩, ⟨"FOREIGN", reserved⟩,
  ⟨"FORMAT", 0⟩, ⟨"FOUND", 0⟩, ⟨"FOUND_ROWS", 0⟩, ⟨"FROM", reserved⟩, ⟨"FROM_BASE64", 0⟩,
  ⟨"FROM_DAYS", 0⟩, ⟨"FROM_UNIXTIME", 0⟩, ⟨"FULL", 0⟩, ⟨"FULLTEXT", reserved⟩,
  ⟨"FUNCTION", reserved⟩, ⟨"GENERAL", 0⟩, ⟨"GENERATE", 0⟩, ⟨"GENERATED", reserved⟩,
  ⟨"GEOMCOLLECTION", 0⟩, ⟨"GEOMETRY", 0⟩, ⟨"GEOMETRYCOLLECTION", 0⟩, ⟨"GET", reserved⟩,
  ⟨"GET_FORMAT", 0⟩, ⟨"GET_SOURCE_PUBLIC_KEY", 0⟩, ⟨"GLOBAL", 0⟩, ⟨"GRANT", reserved⟩,
  ⟨"GRANTS", 0⟩, ⟨"GREATEST", 0⟩, ⟨"GROUP", reserved⟩, ⟨"GROUPING", reserved⟩, ⟨"GROUPS", reserved⟩,
  ⟨"GROUP_CONCAT", 0⟩, ⟨"GROUP_REPLICATION", 0⟩, ⟨"GTIDS", 0⟩, ⟨"GTID_ONLY", 0⟩,
  ⟨"HANDLER", restrictedLabel⟩, ⟨"HASH", 0⟩, ⟨"HAVING", reserved⟩, ⟨"HELP", restrictedLabel⟩,
  ⟨"HEX", 0⟩, ⟨"HIGH_PRIORITY", reserved⟩, ⟨"HISTOGRAM", 0⟩, ⟨"HISTORY", 0⟩, ⟨"HOST", 0⟩,
  ⟨"HOSTS", 0⟩, ⟨"HOUR", 0⟩, ⟨"HOUR_MICROSECOND", reserved⟩, ⟨"HOUR_MINUTE", reserved⟩,
  ⟨"HOUR_SECOND", reserved⟩, ⟨"IDENTIFIED", 0⟩, ⟨"IF", reserved⟩, ⟨"IFNULL", 0⟩,
  ⟨"IGNORE", reserved⟩, ⟨"IGNORE_SERVER_IDS", 0⟩, ⟨"IMPORT", restrictedLabel⟩, ⟨"IN", reserved⟩,
  ⟨"INACTIVE", 0⟩, ⟨"INDEX", reserved⟩, ⟨"INDEXES", 0⟩, ⟨"INFILE", reserved⟩, ⟨"INITIAL", 0⟩,
  ⟨"INITIAL_SIZE", 0⟩, ⟨"INITIATE", 0⟩, ⟨"INNER", reserved⟩, ⟨"INOUT", reserved⟩,
  ⟨"INSENSITIVE", reserved⟩, ⟨"INSERT", reserved⟩, ⟨"INSERT_METHOD", 0⟩,
  ⟨"INSTALL", restrictedLabel⟩, ⟨"INSTANCE", 0⟩, ⟨"INSTR", 0⟩, ⟨"INT", reserved⟩,
  ⟨"INT1", reserved⟩, ⟨"INT2", reserved⟩, ⟨"INT3", reserved⟩, ⟨"INT4", reserved⟩,
  ⟨"INT8", reserved⟩, ⟨"INTEGER", reserved⟩, ⟨"INTERSECT", reserved⟩, ⟨"INTERVAL", reserved⟩,
  ⟨"INTO", reserved⟩, ⟨"INVISIBLE", 0⟩, ⟨"INVOKER", 0⟩, ⟨"IO", 0⟩, ⟨"IO_AFTER_GTIDS", reserved⟩,
  ⟨"IO_BEFORE_GTIDS", reserved⟩, ⟨"IO_THREAD", 0⟩, ⟨"IPC", 0⟩, ⟨"IS", reserved⟩, ⟨"ISNULL", 0⟩,
  ⟨"ISOLATION", 0⟩, ⟨"ISSUER", 0⟩, ⟨"IS_UUID", 0⟩, ⟨"ITERATE", reserved⟩, ⟨"JOIN", reserved⟩,
  ⟨"JSON", 0⟩, ⟨"JSON_ARRAY", 0⟩, ⟨"JSON_CONTAINS", 0⟩, ⟨"JSON_CONTAINS_PATH", 0⟩,
  ⟨"JSON_EXTRACT", 0⟩, ⟨"JSON_INSERT", 0⟩, ⟨"JSON_KEYS", 0⟩, ⟨"JSON_LENGTH", 0⟩, ⟨"JSON_OBJECT", 0⟩,
  ⟨"JSON_QUOTE", 0⟩, ⟨"JSON_REMOVE", 0⟩, ⟨"JSON_REPLACE", 0⟩, ⟨"JSON_SET", 0⟩,
  ⟨"JSON_TABLE", reserved⟩, ⟨"JSON_TYPE", 0⟩, ⟨"JSON_UNQUOTE", 0⟩, ⟨"JSON_VALID", 0⟩,
  ⟨"JSON_VALUE", 0⟩, ⟨"KEY", reserved⟩, ⟨"KEYRING", 0⟩, ⟨"KEYS", reserved⟩, ⟨"KEY_BLOCK_SIZE", 0⟩,
  ⟨"KILL", reserved⟩, ⟨"LAG", reserved⟩, ⟨"LANGUAGE", restrictedLabel⟩, ⟨"LAST", 0⟩,
  ⟨"LAST_DAY", 0⟩, ⟨"LAST_INSERT_ID", 0⟩, ⟨"LAST_VALUE", reserved⟩, ⟨"LATERAL", reserved⟩,
  ⟨"LCASE", 0⟩, ⟨"LEAD", reserved⟩, ⟨"LEADING", reserved⟩, ⟨"LEAST", 0⟩, ⟨"LEAVE", reserved⟩,
  ⟨"LEAVES", 0⟩, ⟨"LEFT", reserved⟩, ⟨"LENGTH", 0⟩, ⟨"LESS", 0⟩, ⟨"LEVEL", 0⟩, ⟨"LIKE", reserved⟩,
  ⟨"LIMIT", reserved⟩, ⟨"LINEAR", reserved⟩, ⟨"LINES", reserved⟩, ⟨"LINESTRING", 0⟩, ⟨"LIST", 0⟩,
  ⟨"LN", 0⟩, ⟨"LOAD", reserved⟩, ⟨"LOCAL", 0⟩, ⟨"LOCALTIME", reserved⟩,
  ⟨"LOCALTIMESTAMP", reserved⟩, ⟨"LOCATE", 0⟩, ⟨"LOCK", reserved⟩, ⟨"LOCKED", 0⟩, ⟨"LOCKS", 0⟩,
  ⟨"LOG", 0⟩, ⟨"LOG10", 0⟩, ⟨"LOG2", 0⟩, ⟨"LOGFILE", 0⟩, ⟨"LOGS", 0⟩, ⟨"LONG", reserved⟩,
  ⟨"LONGBLOB", reserved⟩, ⟨"LONGTEXT", reserved⟩, ⟨"LOOP", reserved⟩, ⟨"LOWER", 0⟩,
  ⟨"LOW_PRIORITY", reserved⟩, ⟨"LPAD", 0⟩, ⟨"LTRIM", 0⟩, ⟨"MAKEDATE", 0⟩, ⟨"MAKETIME", 0⟩,
  ⟨"MAKE_SET", 0⟩, ⟨"MANUAL", 0⟩, ⟨"MASTER", 0⟩, ⟨"MATCH", reserved⟩, ⟨"MAX", 0⟩,
  ⟨"MAXVALUE", reserved⟩, ⟨"MAX_CONNECTIONS_PER_HOUR", 0⟩, ⟨"MAX_QUERIES_PER_HOUR", 0⟩,
  ⟨"MAX_ROWS", 0⟩, ⟨"MAX_SIZE", 0⟩, ⟨"MAX_UPDATES_PER_HOUR", 0⟩, ⟨"MAX_USER_CONNECTIONS", 0⟩,
  ⟨"MD5", 0⟩, ⟨"MEDIUM", 0⟩, ⟨"MEDIUMBLOB", reserved⟩, ⟨"MEDIUMINT", reserved⟩,
  ⟨"MEDIUMTEXT", reserved⟩, ⟨"MEMBER", 0⟩, ⟨"MEMORY", 0⟩, ⟨"MERGE", 0⟩, ⟨"MESSAGE_TEXT", 0⟩,
  ⟨"MICROSECOND", 0⟩, ⟨"MID", 0⟩, ⟨"MIDDLEINT", reserved⟩, ⟨"MIGRATE", 0⟩, ⟨"MIN", 0⟩,
  ⟨"MINUTE", 0⟩, ⟨"MINUTE_MICROSECOND", reserved⟩, ⟨"MINUTE_SECOND", reserved⟩, ⟨"MIN_ROWS", 0⟩,
  ⟨"MOD", reserved⟩, ⟨"MODE", 0⟩, ⟨"MODIFIES", reserved⟩, ⟨"MODIFY", 0⟩, ⟨"MONTH", 0⟩,
  ⟨"MONTHNAME", 0⟩, ⟨"MULTILINESTRING", 0⟩, ⟨"MULTIPOINT", 0⟩, ⟨"MULTIPOLYGON", 0⟩, ⟨"MUTEX", 0⟩,
  ⟨"MYSQL_ERRNO", 0⟩, ⟨"NAME", 0⟩, ⟨"NAMES", 0⟩, ⟨"NATIONAL", 0⟩, ⟨"NATURAL", reserved⟩,
  ⟨"NCHAR", 0⟩, ⟨"NDB", 0⟩, ⟨"NDBCLUSTER", 0⟩, ⟨"NESTED", 0⟩, ⟨"NETWORK_NAMESPACE", 0⟩,
  ⟨"NEVER", 0⟩, ⟨"NEW", 0⟩, ⟨"NEXT", 0⟩, ⟨"NO", restrictedLabel⟩, ⟨"NODEGROUP", 0⟩,
  ⟨"NONE", restrictedRole⟩, ⟨"NOT", reserved⟩, ⟨"NOW", 0⟩, ⟨"NOWAIT", 0⟩, ⟨"NO_WAIT", 0⟩,
  ⟨"NO_WRITE_TO_BINLOG", reserved⟩, ⟨"NTH_VALUE", reserved⟩, ⟨"NTILE", reserved⟩,
  ⟨"NULL", reserved⟩, ⟨"NULLIF", 0⟩, ⟨"NULLS", 0⟩, ⟨"NUMBER", 0⟩, ⟨"NUMERIC", reserved⟩,
  ⟨"NVARCHAR", 0⟩, ⟨"OCT", 0⟩, ⟨"OCTET_LENGTH", 0⟩, ⟨"OF", reserved⟩, ⟨"OFF", 0⟩, ⟨"OFFSET", 0⟩,
  ⟨"OJ", 0⟩, ⟨"OLD", 0⟩, ⟨"ON", reserved⟩, ⟨"ONE", 0⟩, ⟨"ONLY", 0⟩, ⟨"OPEN", 0⟩,
  ⟨"OPTIMIZE", reserved⟩, ⟨"OPTIMIZER_COSTS", reserved⟩, ⟨"OPTION", reserved⟩, ⟨"OPTIONAL", 0⟩,
  ⟨"OPTIONALLY", reserved⟩, ⟨"OPTIONS", 0⟩, ⟨"OR", reserved⟩, ⟨"ORD", 0⟩, ⟨"ORDER", reserved⟩,
  ⟨"ORDINALITY", 0⟩, ⟨"ORGANIZATION", 0⟩, ⟨"OTHERS", 0⟩, ⟨"OUT", reserved⟩, ⟨"OUTER", reserved⟩,
  ⟨"OUTFILE", reserved⟩, ⟨"OVER", reserved⟩, ⟨"OWNER", 0⟩, ⟨"PACK_KEYS", 0⟩, ⟨"PAGE", 0⟩,
  ⟨"PARALLEL", 0⟩, ⟨"PARSER", 0⟩, ⟨"PARSE_TREE", 0⟩, ⟨"PARTIAL", 0⟩, ⟨"PARTITION", reserved⟩,
  ⟨"PARTITIONING", 0⟩, ⟨"PARTITIONS", 0⟩, ⟨"PASSWORD", 0⟩, ⟨"PASSWORD_LOCK_TIME", 0⟩, ⟨"PATH", 0⟩,
  ⟨"PERCENT_RANK", reserved⟩, ⟨"PERIOD_ADD", 0⟩, ⟨"PERIOD_DIFF", 0⟩, ⟨"PERSIST", 0⟩,
  ⟨"PERSIST_ONLY", 0⟩, ⟨"PHASE", 0⟩, ⟨"PI", 0⟩, ⟨"PLUGIN", 0⟩, ⟨"PLUGINS", 0⟩, ⟨"PLUGIN_DIR", 0⟩,
  ⟨"POINT", 0⟩, ⟨"POLYGON", 0⟩, ⟨"PORT", 0⟩, ⟨"POSITION", 0⟩, ⟨"POW", 0⟩, ⟨"POWER", 0⟩,
  ⟨"PRECEDES", restrictedLabel⟩, ⟨"PRECEDING", 0⟩, ⟨"PRECISION", reserved⟩,
  ⟨"PREPARE", restrictedLabel⟩, ⟨"PRESERVE", 0⟩, ⟨"PREV", 0⟩, ⟨"PRIMARY", reserved⟩,
  ⟨"PRIVILEGES", 0⟩, ⟨"PRIVILEGE_CHECKS_USER", 0⟩, ⟨"PROCEDURE", reserved⟩,
  ⟨"PROCESS", restrictedRole⟩, ⟨"PROCESSLIST", 0⟩, ⟨"PROFILE", 0⟩, ⟨"PROFILES", 0⟩,
  ⟨"PROXY", restrictedRole⟩, ⟨"PURGE", reserved⟩, ⟨"QUALIFY", 0⟩, ⟨"QUARTER", 0⟩, ⟨"QUERY", 0⟩,
  ⟨"QUICK", 0⟩, ⟨"QUOTE", 0⟩, ⟨"RADIANS", 0⟩, ⟨"RAND", 0⟩, ⟨"RANDOM", 0⟩, ⟨"RANDOM_BYTES", 0⟩,
  ⟨"RANGE", reserved⟩, ⟨"RANK", reserved⟩, ⟨"READ", reserved⟩, ⟨"READS", reserved⟩,
  ⟨"READ_ONLY", 0⟩, ⟨"READ_WRITE", reserved⟩, ⟨"REAL", reserved⟩, ⟨"REBUILD", 0⟩, ⟨"RECOVER", 0⟩,
  ⟨"RECURSIVE", reserved⟩, ⟨"REDO_BUFFER_SIZE", 0⟩, ⟨"REDUNDANT", 0⟩, ⟨"REFERENCE", 0⟩,
  ⟨"REFERENCES", reserved⟩, ⟨"REGEXP", reserved⟩, ⟨"REGEXP_INSTR", 0⟩, ⟨"REGEXP_LIKE", 0⟩,
  ⟨"REGEXP_REPLACE", 0⟩, ⟨"REGEXP_SUBSTR", 0⟩, ⟨"REGISTRATION", 0⟩, ⟨"RELAY", 0⟩, ⟨"RELAYLOG", 0⟩,
  ⟨"RELAY_LOG_FILE", 0⟩, ⟨"RELAY_LOG_POS", 0⟩, ⟨"RELAY_THREAD", 0⟩, ⟨"RELEASE", reserved⟩,
  ⟨"RELOAD", restrictedRole⟩, ⟨"REMOVE", 0⟩, ⟨"RENAME", reserved⟩, ⟨"REORGANIZE", 0⟩,
  ⟨"REPAIR", restrictedLabel⟩, ⟨"REPEAT", reserved⟩, ⟨"REPEATABLE", 0⟩, ⟨"REPLACE", reserved⟩,
  ⟨"REPLICA", 0⟩, ⟨"REPLICAS", 0⟩, ⟨"REPLICATE_DO_DB", 0⟩, ⟨"REPLICATE_DO_TABLE", 0⟩,
  ⟨"REPLICATE_IGNORE_DB", 0⟩, ⟨"REPLICATE_IGNORE_TABLE", 0⟩, ⟨"REPLICATE_REWRITE_DB", 0⟩,
  ⟨"REPLICATE_WILD_DO_TABLE", 0⟩, ⟨"REPLICATE_WILD_IGNORE_TABLE", 0⟩,
  ⟨"REPLICATION", restrictedRole⟩, ⟨"REQUIRE", reserved⟩, ⟨"REQUIRE_ROW_FORMAT", 0⟩,
  ⟨"REQUIRE_TABLE_PRIMARY_KEY_CHECK", 0⟩, ⟨"RESET", restrictedLabel⟩, ⟨"RESIGNAL", reserved⟩,
  ⟨"RESOURCE", restrictedRole⟩, ⟨"RESPECT", 0⟩, ⟨"RESTART", restrictedLabel ||| restrictedRole⟩,
  ⟨"RESTORE", 0⟩, ⟨"RESTRICT", reserved⟩, ⟨"RESUME", 0⟩, ⟨"RETAIN", 0⟩, ⟨"RETURN", reserved⟩,
  ⟨"RETURNED_SQLSTATE", 0⟩, ⟨"RETURNING", 0⟩, ⟨"RETURNS", 0⟩, ⟨"REUSE", 0⟩, ⟨"REVERSE", 0⟩,
  ⟨"REVOKE", reserved⟩, ⟨"RIGHT", reserved⟩, ⟨"RLIKE", reserved⟩, ⟨"ROLE", 0⟩,
  ⟨"ROLLBACK", restrictedLabel⟩, ⟨"ROLLUP", 0⟩, ⟨"ROTATE", 0⟩, ⟨"ROUND", 0⟩, ⟨"ROUTINE", 0⟩,
  ⟨"ROW", reserved⟩, ⟨"ROWS", reserved⟩, ⟨"ROW_COUNT", 0⟩, ⟨"ROW_FORMAT", 0⟩,
  ⟨"ROW_NUMBER", reserved⟩, ⟨"RPAD", 0⟩, ⟨"RTREE", 0⟩, ⟨"RTRIM", 0⟩, ⟨"S3", 0⟩,
  ⟨"SAVEPOINT", restrictedLabel⟩, ⟨"SCHEDULE", 0⟩, ⟨"SCHEMA", reserved⟩, ⟨"SCHEMAS", reserved⟩,
  ⟨"SCHEMA_NAME", 0⟩, ⟨"SECOND", 0⟩, ⟨"SECONDARY", 0⟩, ⟨"SECONDARY_ENGINE", 0⟩,
  ⟨"SECONDARY_ENGINE_ATTRIBUTE", 0⟩, ⟨"SECONDARY_LOAD", 0⟩, ⟨"SECONDARY_UNLOAD", 0⟩,
  ⟨"SECOND_MICROSECOND", reserved⟩, ⟨"SECURITY", 0⟩, ⟨"SEC_TO_TIME", 0⟩, ⟨"SELECT", reserved⟩,
  ⟨"SENSITIVE", reserved⟩, ⟨"SEPARATOR", reserved⟩, ⟨"SERIAL", 0⟩, ⟨"SERIALIZABLE", 0⟩,
  ⟨"SERVER", 0⟩, ⟨"SESSION", 0⟩, ⟨"SESSION_USER", 0⟩, ⟨"SET", reserved⟩, ⟨"SHA", 0⟩, ⟨"SHA1", 0⟩,
  ⟨"SHA2", 0⟩, ⟨"SHARE", 0⟩, ⟨"SHOW", reserved⟩, ⟨"SHUTDOWN", restrictedLabel ||| restrictedRole⟩,
  ⟨"SIGN", 0⟩, ⟨"SIGNAL", reserved⟩, ⟨"SIGNED", restrictedLabel⟩, ⟨"SIMPLE", 0⟩, ⟨"SIN", 0⟩,
  ⟨"SKIP", 0⟩, ⟨"SLAVE", restrictedLabel⟩, ⟨"SLOW", 0⟩, ⟨"SMALLINT", reserved⟩, ⟨"SNAPSHOT", 0⟩,
  ⟨"SOCKET", 0⟩, ⟨"SOME", 0⟩, ⟨"SONAME", 0⟩, ⟨"SOUNDEX", 0⟩, ⟨"SOUNDS", 0⟩, ⟨"SOURCE", 0⟩,
  ⟨"SOURCE_AUTO_POSITION", 0⟩, ⟨"SOURCE_BIND", 0⟩, ⟨"SOURCE_COMPRESSION_ALGORITHMS", 0⟩,
  ⟨"SOURCE_CONNECTION_AUTO_FAILOVER", 0⟩, ⟨"SOURCE_CONNECT_RETRY", 0⟩, ⟨"SOURCE_DELAY", 0⟩,
  ⟨"SOURCE_HEARTBEAT_PERIOD", 0⟩, ⟨"SOURCE_HOST", 0⟩, ⟨"SOURCE_LOG_FILE", 0⟩, ⟨"SOURCE_LOG_POS", 0⟩,
  ⟨"SOURCE_PASSWORD", 0⟩, ⟨"SOURCE_PORT", 0⟩, ⟨"SOURCE_PUBLIC_KEY_PATH", 0⟩,
  ⟨"SOURCE_RETRY_COUNT", 0⟩, ⟨"SOURCE_SSL", 0⟩, ⟨"SOURCE_SSL_CA", 0⟩, ⟨"SOURCE_SSL_CAPATH", 0⟩,
  ⟨"SOURCE_SSL_CERT", 0⟩, ⟨"SOURCE_SSL_CIPHER", 0⟩, ⟨"SOURCE_SSL_CRL", 0⟩,
  ⟨"SOURCE_SSL_CRLPATH", 0⟩, ⟨"SOURCE_SSL_KEY", 0⟩, ⟨"SOURCE_SSL_VERIFY_SERVER_CERT", 0⟩,
  ⟨"SOURCE_TLS_CIPHERSUITES", 0⟩, ⟨"SOURCE_TLS_VERSION", 0⟩, ⟨"SOURCE_USER", 0⟩,
  ⟨"SOURCE_ZSTD_COMPRESSION_LEVEL", 0⟩, ⟨"SPACE", 0⟩, ⟨"SPATIAL", reserved⟩, ⟨"SPECIFIC", reserved⟩,
  ⟨"SQL", reserved⟩, ⟨"SQLEXCEPTION", reserved⟩, ⟨"SQLSTATE", reserved⟩, ⟨"SQLWARNING", reserved⟩,
  ⟨"SQL_AFTER_GTIDS", 0⟩, ⟨"SQL_AFTER_MTS_GAPS", 0⟩, ⟨"SQL_BEFORE_GTIDS", 0⟩,
  ⟨"SQL_BIG_RESULT", reserved⟩, ⟨"SQL_BUFFER_RESULT", 0⟩, ⟨"SQL_CALC_FOUND_ROWS", reserved⟩,
  ⟨"SQL_NO_CACHE", 0⟩, ⟨"SQL_SMALL_RESULT", reserved⟩, ⟨"SQL_THREAD", 0⟩, ⟨"SQL_TSI_DAY", 0⟩,
  ⟨"SQL_TSI_HOUR", 0⟩, ⟨"SQL_TSI_MINUTE", 0⟩, ⟨"SQL_TSI_MONTH", 0⟩, ⟨"SQL_TSI_QUARTER", 0⟩,
  ⟨"SQL_TSI_SECOND", 0⟩, ⟨"SQL_TSI_WEEK", 0⟩, ⟨"SQL_TSI_YEAR", 0⟩, ⟨"SQRT", 0⟩, ⟨"SRID", 0⟩,
  ⟨"SSL", reserved⟩, ⟨"STACKED", 0⟩, ⟨"START", restrictedLabel⟩, ⟨"STARTING", reserved⟩,
  ⟨"STARTS", 0⟩, ⟨"STATS_AUTO_RECALC", 0⟩, ⟨"STATS_PERSISTENT", 0⟩, ⟨"STATS_SAMPLE_PAGES", 0⟩,
  ⟨"STATUS", 0⟩, ⟨"STOP", restrictedLabel⟩, ⟨"STORAGE", 0⟩, ⟨"STORED", reserved⟩,
  ⟨"STRAIGHT_JOIN", reserved⟩, ⟨"STRCMP", 0⟩, ⟨"STREAM", 0⟩, ⟨"STRING", 0⟩, ⟨"STR_TO_DATE", 0⟩,
  ⟨"SUBCLASS_ORIGIN", 0⟩, ⟨"SUBDATE", 0⟩, ⟨"SUBJECT", 0⟩, ⟨"SUBPARTITION", 0⟩, ⟨"SUBPARTITIONS", 0⟩,
  ⟨"SUBSTR", 0⟩, ⟨"SUBSTRING", 0⟩, ⟨"SUBSTRING_INDEX", 0⟩, ⟨"SUBTIME", 0⟩, ⟨"SUM", 0⟩,
  ⟨"SUPER", restrictedRole⟩, ⟨"SUSPEND", 0⟩, ⟨"SWAPS", 0⟩, ⟨"SWITCHES", 0⟩, ⟨"SYSDATE", 0⟩,
  ⟨"SYSTEM", reserved⟩, ⟨"SYSTEM_USER", 0⟩, ⟨"TABLE", reserved⟩, ⟨"TABLES", 0⟩, ⟨"TABLESAMPLE", 0⟩,
  ⟨"TABLESPACE", 0⟩, ⟨"TABLE_CHECKSUM", 0⟩, ⟨"TABLE_NAME", 0⟩, ⟨"TAN", 0⟩, ⟨"TEMPORARY", 0⟩,
  ⟨"TEMPTABLE", 0⟩, ⟨"TERMINATED", reserved⟩, ⟨"TEXT", 0⟩, ⟨"THAN", 0⟩, ⟨"THEN", reserved⟩,
  ⟨"THREAD_PRIORITY", 0⟩, ⟨"TIES", 0⟩, ⟨"TIME", 0⟩, ⟨"TIMEDIFF", 0⟩, ⟨"TIMESTAMP", 0⟩,
  ⟨"TIMESTAMPADD", 0⟩, ⟨"TIMESTAMPDIFF", 0⟩, ⟨"TIME_FORMAT", 0⟩, ⟨"TIME_TO_SEC", 0⟩,
  ⟨"TINYBLOB", reserved⟩, ⟨"TINYINT", reserved⟩, ⟨"TINYTEXT", reserved⟩, ⟨"TLS", 0⟩,
  ⟨"TO", reserved⟩, ⟨"TO_BASE64", 0⟩, ⟨"TO_DAYS", 0⟩, ⟨"TO_SECONDS", 0⟩, ⟨"TRAILING", reserved⟩,
  ⟨"TRANSACTION", 0⟩, ⟨"TRIGGER", reserved⟩, ⟨"TRIGGERS", 0⟩, ⟨"TRIM", 0⟩, ⟨"TRUE", reserved⟩,
  ⟨"TRUNCATE", restrictedLabel⟩, ⟨"TYPE", 0⟩, ⟨"TYPES", 0⟩, ⟨"UCASE", 0⟩, ⟨"UNBOUNDED", 0⟩,
  ⟨"UNCOMMITTED", 0⟩, ⟨"UNCOMPRESS", 0⟩, ⟨"UNCOMPRESSED_LENGTH", 0⟩, ⟨"UNDEFINED", 0⟩,
  ⟨"UNDO", reserved⟩, ⟨"UNDOFILE", 0⟩, ⟨"UNDO_BUFFER_SIZE", 0⟩, ⟨"UNHEX", 0⟩,
  ⟨"UNICODE", restrictedLabel⟩, ⟨"UNINSTALL", restrictedLabel⟩, ⟨"UNION", reserved⟩,
  ⟨"UNIQUE", reserved⟩, ⟨"UNIX_TIMESTAMP", 0⟩, ⟨"UNKNOWN", 0⟩, ⟨"UNLOCK", reserved⟩,
  ⟨"UNREGISTER", 0⟩, ⟨"UNSIGNED", reserved⟩, ⟨"UNTIL", 0⟩, ⟨"UPDATE", reserved⟩, ⟨"UPGRADE", 0⟩,
  ⟨"UPPER", 0⟩, ⟨"URL", 0⟩, ⟨"USAGE", reserved⟩, ⟨"USE", reserved⟩, ⟨"USER", 0⟩,
  ⟨"USER_RESOURCES", 0⟩, ⟨"USE_FRM", 0⟩, ⟨"USING", reserved⟩, ⟨"UTC", 0⟩, ⟨"UTC_DATE", reserved⟩,
  ⟨"UTC_TIME", reserved⟩, ⟨"UTC_TIMESTAMP", reserved⟩, ⟨"UUID", 0⟩, ⟨"UUID_TO_BIN", 0⟩,
  ⟨"VALIDATION", 0⟩, ⟨"VALUE", 0⟩, ⟨"VALUES", reserved⟩, ⟨"VARBINARY", reserved⟩,
  ⟨"VARCHAR", reserved⟩, ⟨"VARCHARACTER", reserved⟩, ⟨"VARIABLES", 0⟩, ⟨"VARYING", reserved⟩,
  ⟨"VCPU", 0⟩, ⟨"VERSION", 0⟩, ⟨"VIEW", 0⟩, ⟨"VIRTUAL", reserved⟩, ⟨"VISIBLE", 0⟩, ⟨"WAIT", 0⟩,
  ⟨"WARNINGS", 0⟩, ⟨"WEEK", 0⟩, ⟨"WEEKDAY", 0⟩, ⟨"WEEKOFYEAR", 0⟩, ⟨"WEIGHT_STRING", 0⟩,
  ⟨"WHEN", reserved⟩, ⟨"WHERE", reserved⟩, ⟨"WHILE", reserved⟩, ⟨"WINDOW", reserved⟩,
  ⟨"WITH", reserved⟩, ⟨"WITHOUT", 0⟩, ⟨"WORK", 0⟩, ⟨"WRAPPER", 0⟩, ⟨"WRITE", reserved⟩, ⟨"X509", 0⟩,
  ⟨"XA", restrictedLabel⟩, ⟨"XID", 0⟩, ⟨"XML", 0⟩, ⟨"XOR", reserved⟩, ⟨"YEAR", 0⟩, ⟨"YEARWEEK", 0⟩,
  ⟨"YEAR_MONTH", reserved⟩, ⟨"ZEROFILL", reserved⟩, ⟨"ZONE", 0⟩, ⟨"_FILENAME", reserved⟩,
  ⟨"JSON_DEPTH", 0⟩, ⟨"JSON_PRETTY", 0⟩, ⟨"JSON_OVERLAPS", 0⟩, ⟨"JSON_STORAGE_SIZE", 0⟩,
  ⟨"JSON_STORAGE_FREE", 0⟩, ⟨"JSON_ARRAY_APPEND", 0⟩, ⟨"JSON_ARRAY_INSERT", 0⟩, ⟨"JSON_MERGE", 0⟩,
  ⟨"JSON_MERGE_PATCH", 0⟩, ⟨"JSON_MERGE_PRESERVE", 0⟩, ⟨"JSON_SEARCH", 0⟩]

/-- The half-open range of the entries that start with a byte. -/
structure KeywordRange where
  first : UInt8
  low : Nat
  high : Nat

/-- The cases of `keyword_search_range`. -/
def keywordRanges : List KeywordRange := [
  ⟨65, 0, 38⟩, ⟨66, 38, 64⟩, ⟨67, 64, 144⟩, ⟨68, 144, 195⟩, ⟨69, 195, 232⟩, ⟨70, 232, 268⟩,
  ⟨71, 268, 288⟩, ⟨72, 288, 302⟩, ⟨73, 302, 347⟩, ⟨74, 347, 366⟩, ⟨75, 366, 371⟩, ⟨76, 371, 416⟩,
  ⟨77, 416, 459⟩, ⟨78, 459, 487⟩, ⟨79, 487, 515⟩, ⟨80, 515, 559⟩, ⟨81, 559, 564⟩, ⟨82, 564, 647⟩,
  ⟨83, 647, 780⟩, ⟨84, 780, 819⟩, ⟨85, 819, 855⟩, ⟨86, 855, 868⟩, ⟨87, 868, 883⟩, ⟨88, 883, 888⟩,
  ⟨89, 888, 891⟩, ⟨90, 891, 893⟩, ⟨95, 893, 894⟩]

/-- The cases of `keyword_length_is_possible`. -/
def keywordLengthMasks : List (UInt8 × Nat) := [
  (65, 0x000000400000c6fc), (66, 0x0000000000000efc), (67, 0x000000000007bff8),
  (68, 0x000000000000bfdc), (69, 0x0000000000010ff8), (70, 0x000000000020aff8),
  (71, 0x00000000002657e8), (72, 0x0000000000012af8), (73, 0x000000000002fffc),
  (74, 0x00000000000f3f10), (75, 0x0000000000004098), (76, 0x00000000000057fc),
  (77, 0x000000000114bff8), (78, 0x00000000000607fc), (79, 0x00000000000095fc),
  (80, 0x0000000000241ffc), (81, 0x00000000000000a0), (82, 0x0000000088dffff8),
  (83, 0x00000000a4dffffc), (84, 0x000000000000fffc), (85, 0x0000000000096ff8),
  (86, 0x00000000000016f0), (87, 0x00000000000025f0), (88, 0x000000000000001c),
  (89, 0x0000000000000510), (90, 0x0000000000000110), (95, 0x0000000000000200)]

/-- The comparisons of `lookup_hot_keyword_index` by length and first byte. -/
def hotKeywords : List (Nat × List (UInt8 × List (String × Nat))) := [
  (2, [
    (65, [("AS", 22)]),
    (66, [("BY", 62)]),
    (73, [("IN", 308), ("IF", 303), ("IS", 341)]),
    (79, [("ON", 494), ("OR", 504)]),
    (84, [("TO", 806)])]),
  (3, [
    (65, [("AND", 18), ("ADD", 6), ("ALL", 14)]),
    (69, [("END", 203)]),
    (70, [("FOR", 255)]),
    (72, [("HEX", 292)]),
    (73, [("INT", 324)]),
    (75, [("KEY", 366)]),
    (77, [("MAX", 422), ("MIN", 443)]),
    (78, [("NOT", 474)]),
    (82, [("ROW", 639)]),
    (83, [("SET", 670), ("SUM", 772)])]),
  (4, [
    (67, [("CHAR", 78), ("CAST", 69), ("CALL", 65)]),
    (68, [("DROP", 190), ("DATE", 148), ("DESC", 176), ("DATA", 144)]),
    (70, [("FROM", 261)]),
    (73, [("INTO", 333)]),
    (74, [("JOIN", 347), ("JSON", 348)]),
    (76, [("LIKE", 388), ("LEFT", 384), ("LESS", 386)]),
    (78, [("NULL", 481), ("NAME", 459)]),
    (79, [("OVER", 513)]),
    (83, [("SHOW", 675)]),
    (84, [("TIME", 795), ("THAN", 791)]),
    (85, [("USER", 845)]),
    (86, [("VIEW", 865)]),
    (87, [("WITH", 878)])]),
  (5, [
    (65, [("ALTER", 15)]),
    (66, [("BEGIN", 40)]),
    (67, [("COUNT", 127)]),
    (71, [("GROUP", 281), ("GRANT", 278)]),
    (73, [("INDEX", 310)]),
    (76, [("LIMIT", 389)]),
    (79, [("ORDER", 506)]),
    (80, [("POINT", 537)]),
    (84, [("TABLE", 780)]),
    (85, [("USING", 848), ("UNION", 831)]),
    (87, [("WHERE", 875)])]),
  (6, [
    (67, [("CREATE", 130), ("CONCAT", 108), ("COLUMN", 95)]),
    (68, [("DELETE", 174)]),
    (69, [("ENGINE", 206), ("EXISTS", 221)]),
    (70, [("FORMAT", 258)]),
    (71, [("GLOBAL", 277)]),
    (73, [("INSERT", 319)]),
    (77, [("MEMBER", 435)]),
    (82, [("RETURN", 624)]),
    (83, [("SELECT", 662)]),
    (85, [("UPDATE", 839)]),
    (86, [("VALUES", 857)]),
    (87, [("WINDOW", 877)])]),
  (7, [
    (66, [("BETWEEN", 42)]),
    (67, [("COLLATE", 93), ("CHARSET", 81), ("CONVERT", 123), ("COMMENT", 99)]),
    (68, [("DEFAULT", 167), ("DECLARE", 166)]),
    (69, [("EXPLAIN", 226), ("EXECUTE", 220)]),
    (73, [("INTEGER", 330)]),
    (80, [("PRIMARY", 549), ("PREPARE", 546)]),
    (83, [("SESSION", 668)]),
    (84, [("TINYINT", 803)]),
    (86, [("VARCHAR", 859)])]),
  (8, [
    (68, [("DATETIME", 150), ("DISTINCT", 185), ("DATABASE", 145)]),
    (70, [("FUNCTION", 267)]),
    (85, [("UNSIGNED", 837)])]),
  (9, [
    (67, [("CHARACTER", 79)]),
    (80, [("PARTITION", 521), ("PROCEDURE", 552), ("PRECEDING", 544)]),
    (84, [("TIMESTAMP", 797)])]),
  (10, [
    (74, [("JSON_DEPTH", 894), ("JSON_MERGE", 901)]),
    (84, [("TABLE_NAME", 785)])]),
  (11, [
    (74, [("JSON_PRETTY", 895), ("JSON_SEARCH", 904)]),
    (82, [("REGEXP_LIKE", 584)])]),
  (13, [
    (74, [("JSON_OVERLAPS", 896)])]),
  (16, [
    (74, [("JSON_MERGE_PATCH", 902)])]),
  (17, [
    (74, [("JSON_ARRAY_APPEND", 899), ("JSON_ARRAY_INSERT", 900), ("JSON_STORAGE_SIZE", 897),
      ("JSON_STORAGE_FREE", 898)])]),
  (19, [
    (74, [("JSON_MERGE_PRESERVE", 903)])]),
  (14, [
    (65, [("AUTO_INCREMENT", 35)])])]

/-- `second_masks` by the first byte; the lengths not listed have the mask zero. -/
def secondMasks : List (List (Nat × Nat)) := [
  [(2, 0x00000c0000), (3, 0x000024280a), (4, 0x00001c0004), (5, 0x00000e0828), (6, 0x0000000804),
   (7, 0x000000204c), (9, 0x0000082840), (10, 0x0000040004), (14, 0x0000300000), (15, 0x0000100000),
   (38, 0x0000040000)],
  [(2, 0x0001000000), (3, 0x0000000100), (4, 0x0001104800), (5, 0x0000080810), (6, 0x0000000111),
   (7, 0x0000104110), (9, 0x0000000110), (10, 0x0000000100), (11, 0x0000000100)],
  [(3, 0x000000c000), (4, 0x0000104091), (5, 0x0000024881), (6, 0x0000124980), (7, 0x0000104091),
   (8, 0x0000004081), (9, 0x0000104080), (10, 0x0000004000), (11, 0x0000104080), (12, 0x0000104801),
   (13, 0x0000004000), (15, 0x0000004000), (16, 0x0000000080), (17, 0x0000104000),
   (18, 0x0000004080)],
  [(2, 0x0000004000), (3, 0x0000000111), (4, 0x0000120111), (6, 0x0000004010), (7, 0x0001000111),
   (8, 0x0000100111), (9, 0x0000100101), (10, 0x0000000011), (11, 0x0000000111), (12, 0x0000000010),
   (13, 0x0000000010), (15, 0x0000000011)],
  [(3, 0x0000802800), (4, 0x0000802801), (5, 0x0000221000), (6, 0x0000a62800), (7, 0x0000842000),
   (8, 0x0000802000), (9, 0x0000800000), (10, 0x0000802000), (11, 0x0000800000), (16, 0x0000002000)],
  [(3, 0x0000004000), (4, 0x0000120101), (5, 0x0000004911), (6, 0x0000004901), (7, 0x0000004000),
   (8, 0x0000100000), (9, 0x0000024000), (10, 0x0000004000), (11, 0x0000020100), (13, 0x0000020000),
   (15, 0x0000000100), (21, 0x0000000001)],
  [(3, 0x0000000010), (5, 0x00000a0000), (6, 0x0000020800), (7, 0x0000000010), (8, 0x0000020010),
   (9, 0x0000080010), (10, 0x0000000010), (12, 0x0000020000), (14, 0x0000000010),
   (17, 0x0000020000), (18, 0x0000000010), (21, 0x0000000010)],
  [(3, 0x0000000010), (4, 0x0000004011), (5, 0x0000004000), (6, 0x0000000001), (7, 0x0000000101),
   (9, 0x0000000100), (11, 0x0000004000), (13, 0x0000000100), (16, 0x0000004000)],
  [(2, 0x0000046020), (3, 0x000000a000), (4, 0x0000002000), (5, 0x0000002000), (6, 0x0000043060),
   (7, 0x00000c2000), (8, 0x0000002000), (9, 0x0000046000), (10, 0x0000000008), (11, 0x0000002000),
   (12, 0x0000002000), (13, 0x0000002000), (14, 0x0000004000), (15, 0x0000004000),
   (17, 0x0000000040)],
  [(4, 0x0000044000), (8, 0x0000040000), (9, 0x0000040000), (10, 0x0000040000), (11, 0x0000040000),
   (12, 0x0000040000), (13, 0x0000040000), (18, 0x0000040000)],
  [(3, 0x0000000010), (4, 0x0000000110), (7, 0x0000000010), (14, 0x0000000010)],
  [(2, 0x0000002000), (3, 0x0000004001), (4, 0x000000c111), (5, 0x0000084114), (6, 0x0000004110),
   (7, 0x0000004011), (8, 0x0000004001), (9, 0x0000004000), (10, 0x0000000101), (12, 0x0000004000),
   (14, 0x0000004001)],
  [(3, 0x0000004109), (4, 0x0000004000), (5, 0x0000104011), (6, 0x0000004111), (7, 0x0000000100),
   (8, 0x0000004101), (9, 0x0000004110), (10, 0x0000100010), (11, 0x0001000100), (12, 0x0000100010),
   (13, 0x0000000100), (15, 0x0000100000), (18, 0x0000000100), (20, 0x0000000001),
   (24, 0x0000000001)],
  [(2, 0x0000004000), (3, 0x0000004018), (4, 0x0000104011), (5, 0x0000180015), (6, 0x0000104010),
   (7, 0x0000104001), (8, 0x0000200001), (9, 0x0000084000), (10, 0x0000000008), (17, 0x0000000010),
   (18, 0x0000004000)],
  [(2, 0x0000022220), (3, 0x0000122824), (4, 0x000020a000), (5, 0x0000520000), (6, 0x0000088020),
   (7, 0x0000108000), (8, 0x0000008000), (10, 0x0000028000), (12, 0x0000020004), (15, 0x0000008000)],
  [(2, 0x0000000100), (3, 0x0000004000), (4, 0x0000024001), (5, 0x0000124080), (6, 0x0000000801),
   (7, 0x0000024811), (8, 0x0000024001), (9, 0x0000020001), (10, 0x0000020811), (11, 0x0000020010),
   (12, 0x0000000011), (18, 0x0000000001), (21, 0x0000020000)],
  [(5, 0x0000100000), (7, 0x0000100000)],
  [(3, 0x0000004000), (4, 0x000000c011), (5, 0x0000084911), (6, 0x0000004011), (7, 0x0000004011),
   (8, 0x0000004010), (9, 0x0000004010), (10, 0x0000004010), (11, 0x0000000010), (12, 0x0000000011),
   (13, 0x0000000010), (14, 0x0000000010), (15, 0x0000000010), (16, 0x0000000010),
   (17, 0x0000000010), (18, 0x0000000010), (19, 0x0000000010), (20, 0x0000000010),
   (22, 0x0000000010), (23, 0x0000000010), (27, 0x0000000010), (31, 0x0000000010)],
  [(2, 0x0040000000), (3, 0x0000150190), (4, 0x00000b4d80), (5, 0x0000588880), (6, 0x0001184114),
   (7, 0x000118c014), (8, 0x000049b094), (9, 0x0000100011), (10, 0x0000014000), (11, 0x0001094014),
   (12, 0x0000114010), (13, 0x0000194000), (14, 0x0000014010), (15, 0x0000114000),
   (16, 0x0000090010), (17, 0x0000094000), (18, 0x0000094010), (19, 0x0000010000),
   (20, 0x0000004000), (22, 0x0000004000), (23, 0x0000004000), (26, 0x0000000010),
   (29, 0x0000004000), (31, 0x0000004000)],
  [(2, 0x0000004000), (3, 0x0000000801), (4, 0x0001020190), (5, 0x0001000001), (6, 0x0000000001),
   (7, 0x0000024100), (8, 0x0000020100), (9, 0x0000004110), (10, 0x0000004011), (11, 0x0000020101),
   (12, 0x0000000100), (13, 0x0000000100), (14, 0x0000000001), (15, 0x0000000080)],
  [(3, 0x00000e0000), (4, 0x0000142000), (5, 0x000004a004), (6, 0x000000a000), (7, 0x000004a000),
   (8, 0x0000082000), (9, 0x0000002000), (10, 0x0000002000), (11, 0x0000102000), (13, 0x0000080000),
   (14, 0x0000042000), (16, 0x0000002000), (19, 0x0000002000)],
  [(4, 0x0000000104), (5, 0x0000000001), (6, 0x0000000001), (7, 0x0000000111), (9, 0x0000000001),
   (10, 0x0000000001), (12, 0x0000000001)],
  [(4, 0x0000004191), (5, 0x0000020080), (6, 0x0000000100), (7, 0x0000020110), (8, 0x0000000001),
   (10, 0x0000000010), (13, 0x0000000010)],
  [(2, 0x0000000001), (3, 0x0000005100), (4, 0x0100000000)],
  [(4, 0x0000000010), (8, 0x0000000010), (10, 0x0000000010)],
  [(4, 0x0000004000), (8, 0x0000000010)],
  [(9, 0x0000000020)]]

end MyLite.Sql
