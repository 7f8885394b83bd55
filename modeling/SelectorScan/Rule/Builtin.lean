import SelectorScan.Text

/-!
# The rules scanned with when no file is given

Selectors seen in use, and patterns that many operators follow: numbered keys, dates, and names made
of the domain.
-/

namespace SelectorScan.Rule

def builtinFile : List String := [
  "; built-in selector scan rules", "", "; common strings from the wild", "k%N1,20%", "default",
  "google", "mail", "class", "s%L384,512,768,1024,2048%", "m%L384,512,768,1024,2048%", "smtpapi",
  "dkim", "bfi", "spop", "spop1024", "beta", "domk", "key%N1,20%", "dk", "ei", "yesmail%N1,20%",
  "smtpout", "sm", "selector%N1,20%", "authsmtp", "alpha", "v%N1,5%", "mesmtp", "cm", "prod",
  "pm", "gamma", "dkrnt", "dkimrnt", "private", "gmmailerd", "pmta", "m%N1,20%", "x", "selector",
  "qcdkim", "postfix", "mikd", "main", "m", "dk20050327", "delta", "yibm", "wesmail", "test",
  "stigmate", "squaremail", "sitemail", "sel%N1,20%", "sasl", "sailthru", "rsa%N1,20%",
  "responsys", "publickey", "proddkim", "my%N1,20%", "mail-in", "ls%N1,20%", "key", "ED-DKIM",
  "ebmailerd", "eb%N1,20%", "dk%N1,20%", "Corporate", "care", "0xdeadbeef", "yousendit", "www",
  "tilprivate", "testdk", "snowcrash", "smtpcomcustomers", "smtpauth", "smtp", "sl%N1,20%", "sl",
  "sharedpool", "ses", "server", "scooby", "scarlet", "safe", "s", "s%N1,20%", "pvt", "primus",
  "primary", "postfix.private", "outbound", "originating", "one", "neomailout", "mx", "msa",
  "monkey", "mkt", "mimi", "mdaemon", "mailrelay", "mailjet", "mail-dkim", "mailo", "mandrill",
  "lists", "iweb", "iport", "id", "hubris", "googleapps", "global", "gears", "exim4u", "exim",
  "et", "dyn", "duh", "dksel", "dkimmail", "corp", "centralsmtp", "ca", "bfi", "auth",
  "allselector", "zendesk1", "; search rules", "", "; uncreative", "dk%N01,20%", "dk%N1,9%",
  "dkim%N01,20%", "dkim%N1,9%", "dkim", "proddkim", "testdkim",
  "%Ldkim,dk,testdkim,proddkim%%L256,384,512,768,1024,2048%", "", "; year",
  "%L,mail,mail-,dkim,dkim-,sel,sel-,d,dk,s,pf%%N2005,2018%", "", "; year and month",
  "%L,mail,mail-,dkim,dkim-,sel,sel-,d,dk,s%%N2005,2018%%O-%%N01,12%", "",
  "; two digit year and month", "%L,scph%%N05,18%%O-%%N01,12%", "", "; abrv month and year",
  "%Ljan,feb,mar,apr,may,jun,jul,aug,sep,oct,nov,dec%%N2005,2018%", "", "; year and quarter",
  "q%N1,4%%O-%%N2005,2018%", "%N2005,2018%%O-%q%N1,4%", "", "; domain-based",
  "%D%      %L,-dkim,-google%", "%D1%     %L,-dkim,-google%", "%D2%     %L,-dkim,-google%",
  "%D1,2%   %L,-dkim,-google%", "%D-2,-1% %L,-dkim,-google%", "%D-3,-1% %L,-dkim,-google%", "",
  "; domain and number", "%D%      %O-% %N1,20%", "%D1%     %O-% %N1,20%",
  "%D2%     %O-% %N1,20%", "%D1,2%   %O-% %N1,20%", "%D-2,-1% %O-% %N1,20%",
  "%D-3,-1% %O-% %N1,20%", "", "; domain and year", "%D%      %O-% %N2005,2018%",
  "%D1%     %O-% %N2005,2018%", "%D2%     %O-% %N2005,2018%", "%D1,2%   %O-% %N2005,2018% ",
  "%D-2,-1% %O-% %N2005,2018%", "%D-3,-1% %O-% %N2005,2018%", "", "; observed patterns",
  "ED%N2005,2018%%O-%%N01,12%", "", "; year, month, day - includes some bogus days",
  "; THESE TAKE A WHILE", "%L,mail,mail-,dkim,dkim-,s,dk,d%%N2005,2018%%N01,12%%N01,31%%L,01%",
  "%L,mail,mail-,dkim,dkim-,s,dk,d%%N2005,2018%-%N01,12%-%N01,31%", "",
  "; brute force search of short selectors", "; REALLY SLOW, some disabled by default",
  "; the numeric range expansion also walks single letters", "%Na,z%", "%Na,z%%Na,z%",
  "#%Na,z%%Na,z%%Na,z%", "%Na,z%%N0,9%", "%Na,z%%Na,z%%N0,9%", "#%Na,z%%Na,z%%Na,z%%N0,9%",
  "%Na,z%%N0,9%%N0,9%", "#%Na,z%%Na,z%%N0,9%%N0,9%", "#%Na,z%%Na,z%%Na,z%%N0,9%%N0,9%"]

def builtinLines : List Text :=
  builtinFile.map String.toList

end SelectorScan.Rule
